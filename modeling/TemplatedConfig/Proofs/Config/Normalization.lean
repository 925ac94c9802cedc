/-
# Normalizing a variable twice

Normalizing brings the default of a variable into the canonical form of its type.  A canonical
form counts as what the value counted as (`Value.canonical?_canonical`), so normalizing what has
been normalized changes nothing (`Variable.normalize_normalized`).
-/
import TemplatedConfig.Proofs.Results
import TemplatedConfig.Config.Variable

namespace TemplatedConfig

/-! ## 1. Values -/

/-- The shape that the canonical values of a type have. -/
def VariableType.kind? : VariableType → Option Kind
  | unknown => none
  | string => some .string
  | list => some .sequence
  | map => some .mapping

theorem VariableType.eq_of_kind?_eq_some {type : VariableType} {kind : Kind}
    (h : type.kind? = some kind) : kind = .string ∨ kind = .sequence ∨ kind = .mapping := by
  cases type <;> cases h <;> simp

namespace Value

/-- A sequence counts as a map or else as a list. -/
theorem canonical?_sequence (items : List Value) :
    (sequence items).canonical? = match (sequence items).asMap? with
      | some fields => some (.map, .mapping fields)
      | none => some (.list, .sequence items) := rfl

/-- **A canonical form counts as what the value counted as**, and is its own canonical form. -/
theorem canonical?_canonical (v : Value) : v.canonical.canonical? = v.canonical? := by
  cases v with
  | sequence items =>
    rw [canonical, canonical?_sequence]
    cases hmap : (sequence items).asMap? with
    | some fields => rfl
    | none =>
      show (sequence items).canonical? = _
      rw [canonical?_sequence, hmap]
  | _ => rfl

theorem inferredType_canonical (v : Value) : v.canonical.inferredType = v.inferredType := by
  rw [inferredType, canonical?_canonical, inferredType]

theorem canonical_canonical (v : Value) : v.canonical.canonical = v.canonical := by
  rw [canonical, canonical?_canonical]
  cases h : v.canonical? with
  | some form => rw [canonical, h]
  | none => rfl

/-- The canonical form of anything but null is something but null. -/
theorem canonical_ne_null {v : Value} (h : v ≠ .null) : v.canonical ≠ .null := by
  cases v with
  | null => exact (h rfl).elim
  | sequence items =>
    rw [canonical, canonical?_sequence]
    cases (sequence items).asMap? <;> exact Value.noConfusion
  | _ => exact Value.noConfusion

/-- A canonical form has the shape of its type. -/
theorem kind?_inferredType {v : Value} (h : v ≠ .null) :
    v.inferredType.kind? = some v.canonical.kind := by
  cases v with
  | null => exact (h rfl).elim
  | sequence items =>
    rw [inferredType, canonical, canonical?_sequence]
    cases (sequence items).asMap? <;> rfl
  | _ => rfl

end Value

/-! ## 2. Variables -/

namespace Variable

/-- The variable with its default in canonical form. -/
def canonical (v : Variable) : Variable :=
  { v with default := v.default.map Value.canonical }

theorem default_canonical {v : Variable} {default : Value} (h : v.default = some default) :
    v.canonical.default = some default.canonical := by
  rw [canonical, h]
  rfl

/-- A declaration is accepted if the word in it is one for a type. -/
theorem checkDeclared_eq_ok_iff {v : Variable} :
    v.checkDeclared = .ok ()
      ↔ ∀ word, v.declared = some word → ∃ type, VariableType.ofDeclared? word = some type := by
  unfold checkDeclared
  cases v.declared with
  | none => simp
  | some word => cases h : VariableType.ofDeclared? word <;> simp [h]

/-- A default is accepted if it is of the type of the variable, or none is declared. -/
theorem checkDefault_eq_ok_iff {v : Variable} {default : Value} :
    v.checkDefault default = .ok ()
      ↔ (v.declared.isSome = true → v.type = default.inferredType) := by
  unfold checkDefault
  split
  · rename_i hdiffers
    exact ⟨fun h => (nomatch h), fun h => absurd (h hdiffers.1) hdiffers.2⟩
  · rename_i hagrees
    exact ⟨fun _ hsome => Decidable.of_not_not fun hne => hagrees ⟨hsome, hne⟩, fun _ => rfl⟩

/-- A default that is accepted is of the declared type. -/
theorem ofDeclared?_of_checkDefault {v : Variable} {default : Value} {word : String} {kind : Kind}
    (hword : v.declared = some word) (hkind : default.inferredType.kind? = some kind)
    (h : v.checkDefault default = .ok ()) :
    VariableType.ofDeclared? word = some default.inferredType := by
  have htype : v.type = default.inferredType :=
    checkDefault_eq_ok_iff.mp h (by rw [hword]; rfl)
  rw [← htype] at hkind ⊢
  rw [type, hword] at hkind ⊢
  dsimp only at hkind ⊢
  cases hof : VariableType.ofDeclared? word with
  | some type => rfl
  | none =>
    rw [hof] at hkind
    cases hkind

/-- **Normalizing checks the declaration**, and all that it changes is the default, which it
brings into canonical form. -/
theorem normalize_eq_ok_iff {v w : Variable} :
    v.normalize = .ok w ↔ v.checkDeclared = .ok ()
      ∧ (∀ default, v.default = some default → v.checkDefault default = .ok ())
      ∧ w = v.canonical := by
  constructor
  · intro h
    obtain ⟨_, hdeclared, h⟩ := exists_of_bind_eq_ok h
    rcases v with ⟨name, declared, _ | default, description⟩
    · exact ⟨hdeclared, (fun _ hnone => nomatch hnone), (Except.ok.inj h).symm⟩
    · obtain ⟨_, hdefault, h⟩ := exists_of_bind_eq_ok h
      refine ⟨hdeclared, fun _ hsome => ?_, (Except.ok.inj h).symm⟩
      cases hsome
      exact hdefault
  · rintro ⟨hdeclared, hdefault, rfl⟩
    rw [normalize, hdeclared]
    rcases v with ⟨name, declared, _ | default, description⟩
    · rfl
    · show (checkDefault _ default >>= fun _ => _) = _
      rw [hdefault default rfl]
      rfl

/-- **A variable can be normalized** if it declares no type, or one that exists and that its default
is of. -/
theorem exists_normalize_eq_ok_iff {v : Variable} :
    (∃ w, v.normalize = .ok w)
      ↔ ∀ word, v.declared = some word → ∃ type, VariableType.ofDeclared? word = some type
        ∧ ∀ default, v.default = some default → default.inferredType = type := by
  simp only [normalize_eq_ok_iff, exists_and_left, exists_eq, and_true, checkDeclared_eq_ok_iff,
    checkDefault_eq_ok_iff]
  cases hdeclared : v.declared with
  | none => simp
  | some word =>
    cases hof : VariableType.ofDeclared? word with
    | none => simp [hof]
    | some type =>
      have htype : v.type = type := by
        rw [Variable.type, hdeclared]
        dsimp only
        rw [hof]
        rfl
      simp [hof, htype, eq_comm]

/-- A variable with a default in canonical form is of the type that it was of. -/
theorem type_canonical (v : Variable) : v.canonical.type = v.type := by
  rcases v with ⟨name, _ | word, _ | default, description⟩
  · rfl
  · exact Value.inferredType_canonical default
  · rfl
  · rfl

/-- Its default is accepted if it was accepted before. -/
theorem checkDefault_canonical (v : Variable) (default : Value) :
    v.canonical.checkDefault default.canonical = v.checkDefault default := by
  rw [checkDefault, checkDefault, type_canonical, Value.inferredType_canonical]
  rfl

theorem canonical_canonical (v : Variable) : v.canonical.canonical = v.canonical := by
  have hdefault : (v.default.map Value.canonical).map Value.canonical
      = v.default.map Value.canonical := by
    rw [Option.map_map]
    exact congrFun (congrArg Option.map (funext Value.canonical_canonical)) v.default
  exact congrArg (fun default => { v with default }) hdefault

/-- **Normalizing a normalized variable changes nothing.** -/
theorem normalize_normalized {v w : Variable} (h : v.normalize = .ok w) :
    w.normalize = .ok w := by
  obtain ⟨hdeclared, hdefault, rfl⟩ := normalize_eq_ok_iff.mp h
  refine normalize_eq_ok_iff.mpr
    ⟨hdeclared, fun default' hdefault' => ?_, v.canonical_canonical.symm⟩
  obtain ⟨default, hsome, rfl⟩ := Option.map_eq_some_iff.mp hdefault'
  rw [checkDefault_canonical v default]
  exact hdefault default hsome

end Variable

end TemplatedConfig
