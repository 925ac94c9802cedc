/-
# Validating twice

Validation checks all names before it looks at a variable, and normalizes the variables in turn.
It passes if and only if the names are admitted and each variable can be normalized.  Where it stops
at a variable that cannot, those before it have been normalized and stay so (`validate_cases`).

What it leaves behind is therefore not what it was given, in general, but validating that once more
leads to the same result (`validate_validate`).  The names are as before, so they are admitted
again.  The variables that were normalized are normalized already, and the one that could not be is
still there.
-/
import TemplatedConfig.Proofs.Config.Validity

namespace TemplatedConfig.Config

/-! ## 1. What validation leaves behind -/

/-- Variables that are normalized in turn become canonical. -/
theorem mapM_normalizeVariable_eq_ok_iff {inputs out : List Variable} :
    inputs.mapM normalizeVariable = .ok out
      ↔ (∀ v ∈ inputs, v.normalize = .ok v.canonical) ∧ out = inputs.map Variable.canonical := by
  induction inputs generalizing out with
  | nil =>
    exact ⟨fun h => ⟨fun _ hv => (List.not_mem_nil hv).elim, (Except.ok.inj h).symm⟩,
      fun ⟨_, h⟩ => h ▸ rfl⟩
  | cons v rest ih =>
    rw [mapM_cons_eq_ok_iff, List.forall_mem_cons, List.map_cons]
    constructor
    · rintro ⟨w, results, hw, hresults, rfl⟩
      have hnormal : v.normalize = .ok w := mapError_eq_ok_iff.mp hw
      obtain ⟨hrest, rfl⟩ := ih.mp hresults
      obtain rfl := (Variable.normalize_eq_ok_iff.mp hnormal).2.2
      exact ⟨⟨hnormal, hrest⟩, rfl⟩
    · rintro ⟨⟨hnormal, hrest⟩, rfl⟩
      exact ⟨_, _, mapError_eq_ok_iff.mpr hnormal, ih.mpr ⟨hrest, rfl⟩, rfl⟩

/-- A variable is not normalized for a fault of its own, which is then said to be in it. -/
theorem normalizeVariable_eq_error_iff {v : Variable} {fault : Fault} :
    normalizeVariable v = .error fault
      ↔ ∃ cause, v.normalize = .error cause ∧ fault = cause.inside ("variable." ++ v.name) := by
  rw [normalizeVariable]
  cases v.normalize with
  | error cause =>
    exact ⟨fun h => ⟨cause, rfl, (Except.error.inj h).symm⟩, by rintro ⟨_, ⟨⟩, rfl⟩; rfl⟩
  | ok w => exact ⟨fun h => (nomatch h), fun ⟨_, h, _⟩ => (nomatch h)⟩

/-- **The three outcomes of validation.**  It refuses the names and changes nothing, it normalizes
all variables, or it normalizes those before the first that cannot be. -/
theorem validate_cases (c : Config) (g : Name.Grammar) :
    (¬ c.NamesAdmitted g ∧ ∃ fault, c.validate g = (c, some fault))
    ∨ (c.NamesAdmitted g ∧ (∀ v ∈ c.inputs, v.normalize = .ok v.canonical)
      ∧ c.validate g = ({ c with inputs := c.inputs.map Variable.canonical }, none))
    ∨ c.NamesAdmitted g ∧ ∃ before v after fault, c.inputs = before ++ v :: after
      ∧ (∀ earlier ∈ before, earlier.normalize = .ok earlier.canonical)
      ∧ v.normalize = .error fault
      ∧ c.validate g = ({ c with inputs := before.map Variable.canonical ++ v :: after },
          some (fault.inside ("variable." ++ v.name))) := by
  by_cases hadmitted : c.NamesAdmitted g
  · rw [validate_of_namesAdmitted hadmitted]
    obtain ⟨inputs, hinputs, hpass⟩
        | ⟨before, v, after, normal, fault, hsplit, hbefore, hv, hpass⟩ :=
      stepUntilFault_cases normalizeVariable c.inputs
    · obtain ⟨hnormal, rfl⟩ := mapM_normalizeVariable_eq_ok_iff.mp hinputs
      rw [hpass]
      exact .inr (.inl ⟨hadmitted, hnormal, rfl⟩)
    · obtain ⟨hnormal, rfl⟩ := mapM_normalizeVariable_eq_ok_iff.mp hbefore
      obtain ⟨cause, hcause, rfl⟩ := normalizeVariable_eq_error_iff.mp hv
      rw [hpass]
      exact .inr (.inr ⟨hadmitted, before, v, after, cause, hsplit, hnormal, hcause, rfl⟩)
  · exact .inl ⟨hadmitted, validate_of_not_namesAdmitted hadmitted⟩

/-! ## 2. Validating again -/

/-- Normalizing keeps the names of the variables, wherever it stops. -/
theorem map_name_stepUntilFault (inputs : List Variable) :
    (stepUntilFault normalizeVariable inputs).1.map Variable.name = inputs.map Variable.name := by
  induction inputs with
  | nil => rfl
  | cons v rest ih =>
    rw [stepUntilFault]
    cases hstep : normalizeVariable v with
    | error fault => rfl
    | ok w =>
      have hnormal : v.normalize = .ok w := mapError_eq_ok_iff.mp hstep
      obtain rfl := (Variable.normalize_eq_ok_iff.mp hnormal).2.2
      exact congrArg (v.name :: ·) ih

/-- **Validating again leads to the same result.** -/
theorem validate_validate (c : Config) (g : Name.Grammar) :
    (c.validate g).1.validate g = c.validate g := by
  by_cases hadmitted : c.NamesAdmitted g
  · have hagain : NamesAdmitted g
        { c with inputs := (stepUntilFault normalizeVariable c.inputs).1 } :=
      ⟨map_name_stepUntilFault c.inputs ▸ hadmitted.inputs, hadmitted.files, hadmitted.resources⟩
    have hstep : ∀ v w, normalizeVariable v = .ok w → normalizeVariable w = .ok w := by
      intro v w hv
      exact mapError_eq_ok_iff.mpr (Variable.normalize_normalized (mapError_eq_ok_iff.mp hv))
    rw [validate_of_namesAdmitted hadmitted, validate_of_namesAdmitted hagain]
    dsimp only
    rw [stepUntilFault_idempotent hstep]
  · obtain ⟨fault, hrefused⟩ := validate_of_not_namesAdmitted hadmitted
    rw [hrefused, hrefused]

/-- **Validation decides, and what it leaves behind is settled.**  It passes if and only if all
names are admitted and each variable can be normalized.  Passing or not, it changes nothing but
defaults: those of a first part of the variables, which is none of them if it refuses the names,
become canonical, and its fault is that of the variable after them.  Validating what it leaves
behind gives the same result and changes nothing more. -/
theorem validation_decides_and_settles (c : Config) (g : Name.Grammar) :
    ((c.validate g).2 = none
      ↔ c.NamesAdmitted g ∧ ∀ v ∈ c.inputs, ∃ w, v.normalize = .ok w)
    ∧ (∃ before rest, c.inputs = before ++ rest
        ∧ (c.validate g).1 = { c with inputs := before.map Variable.canonical ++ rest }
        ∧ (∀ v ∈ before, v.normalize = .ok v.canonical)
        ∧ (¬ c.NamesAdmitted g → before = [])
        ∧ (c.NamesAdmitted g → ∀ v, rest.head? = some v → ∃ fault, v.normalize = .error fault
            ∧ (c.validate g).2 = some (fault.inside ("variable." ++ v.name))))
    ∧ (c.validate g).1.validate g = c.validate g := by
  rw [← and_assoc]
  refine ⟨?_, validate_validate c g⟩
  obtain ⟨hrefused, fault, hresult⟩ | ⟨hadmitted, hnormal, hresult⟩
    | ⟨hadmitted, before, v, after, fault, hsplit, hnormal, hfault, hresult⟩ := validate_cases c g
  · rw [hresult]
    exact ⟨⟨fun h => (nomatch h), fun h => absurd h.1 hrefused⟩, [], c.inputs, rfl, rfl,
      fun _ hv => (List.not_mem_nil hv).elim, fun _ => rfl, fun h => absurd h hrefused⟩
  · rw [hresult]
    refine ⟨⟨fun _ => ⟨hadmitted, fun v hv => ⟨_, hnormal v hv⟩⟩, fun _ => rfl⟩, c.inputs, [], ?_⟩
    rw [List.append_nil, List.append_nil]
    exact ⟨rfl, rfl, hnormal, fun h => absurd hadmitted h, fun _ _ h => (nomatch h)⟩
  · rw [hresult]
    have hfails : ¬ ∀ v ∈ c.inputs, ∃ w, v.normalize = .ok w := by
      intro hall
      obtain ⟨w, hw⟩ := hall v (hsplit ▸ List.mem_append_right _ List.mem_cons_self)
      rw [hfault] at hw
      cases hw
    refine ⟨⟨fun h => (nomatch h), fun h => absurd h.2 hfails⟩, before, v :: after, hsplit, rfl,
      hnormal, fun h => absurd hadmitted h, fun _ u hu => ?_⟩
    cases hu
    exact ⟨fault, hfault, rfl⟩

namespace Example

/-- A port, tags that are declared as a list but are none, and a zone after them. -/
def mistyped : Config where
  inputs := [{ name := "port", default := some (.integer 8080) },
    { name := "tags", declared := some "list", default := some (.string "web") },
    { name := "zone", default := some (.integer 1) }]

/-- The port becomes a string and the zone stays a number, the second time as well. -/
theorem mistyped_is_settled :
    ∃ fault, (mistyped.validate .standard).2 = some fault
      ∧ (mistyped.validate .standard).1.inputs.map Variable.default
        = [some (.string "8080"), some (.string "web"), some (.integer 1)]
      ∧ (mistyped.validate .standard).1.validate .standard
        = ((mistyped.validate .standard).1, some fault) := by
  obtain ⟨-, -, hagain⟩ := validation_decides_and_settles mistyped .standard
  obtain ⟨fault, hfault⟩ : ∃ fault, (mistyped.validate .standard).2 = some fault := ⟨_, rfl⟩
  exact ⟨fault, hfault, rfl, hagain.trans (Prod.ext rfl hfault)⟩

end Example

end TemplatedConfig.Config
