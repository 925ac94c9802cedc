/-
# Functions that no template can tell apart

The body of a function sees its arguments only after the check.  So what it does with other
arguments, too few of them, a value of another type, an integer where a float is expected, makes no
difference to anything.  Two registries are `Interchangeable` if they have the same names with the
same signatures and the bodies agree on the arguments that the signatures admit.  Calls then give
the same, faults included (`Interchangeable.call_eq`), and evaluation reaches functions in no other
way than by calling them, so all templates are filled alike (`bodies_see_what_is_admitted`).

What comes back is checked as well, whoever wrote the body (`accepts_of_call_eq_ok`).
-/
import TemplatedConfig.Proofs.Function.Admission
import TemplatedConfig.Proofs.Scope.Strictness

namespace TemplatedConfig

/-! ## 1. Calls -/

namespace Registry

/-- Two registries that differ at most in what bodies do with arguments that their signature does
not admit. -/
structure Interchangeable (r r' : Registry) : Prop where
  signatures : ∀ name,
    (r.get? name).map Function.signature = (r'.get? name).map Function.signature
  bodies : ∀ name f f', r.get? name = some f → r'.get? name = some f' →
    ∀ arguments, f.signature.Admits arguments → f.body arguments = f'.body arguments

variable {r r' : Registry}

/-- **Calls give the same**, whether they succeed or fail. -/
theorem Interchangeable.call_eq (h : r.Interchangeable r') : r.call = r'.call := by
  funext name arguments
  have hsignature := h.signatures name
  unfold call
  cases hf : r.get? name with
  | none =>
    rw [hf, Option.map_none, eq_comm, Option.map_eq_none_iff] at hsignature
    rw [hsignature]
  | some f =>
    rw [hf, Option.map_some, eq_comm, Option.map_eq_some_iff] at hsignature
    obtain ⟨f', hf', hsame⟩ := hsignature
    rw [hf']
    simp only [hsame]
    -- a failed check is the end of both calls, and behind it the bodies agree
    cases hchecked : f.signature.check name arguments with
    | error fault => rfl
    | ok checked =>
      show (f.body checked >>= checkResult name f.signature.returns)
        = f'.body checked >>= checkResult name f.signature.returns
      rw [h.bodies name f f' hf hf' checked (check_admits hchecked)]

/-- **What a call gives is of the declared type.** -/
theorem accepts_of_call_eq_ok {name : String} {arguments : List Value} {v : Value}
    (h : r.call name arguments = .ok v) :
    ∃ f, r.get? name = some f ∧ f.signature.returns.accepts v = true := by
  unfold call at h
  split at h
  · cases h
  · rename_i f hf
    obtain ⟨checked, -, h⟩ := exists_of_bind_eq_ok h
    obtain ⟨result, -, h⟩ := exists_of_bind_eq_ok h
    unfold checkResult at h
    split at h
    · rename_i haccepts
      cases h
      exact ⟨f, hf, haccepts⟩
    · cases h

end Registry

/-! ## 2. Templates -/

/-- **A body sees only what its signature admits**, and it sees all of that: the arguments that a
check lets through, after widening, are those that the signature admits.  So registries with the
same names and signatures, whose bodies agree on admitted arguments, fill every template alike under
all bindings, and fail alike.  What a call gives is of the type that the function declares. -/
theorem bodies_see_what_is_admitted {r r' : Registry} (h : r.Interchangeable r') :
    (∀ (s : Signature) (function : String) (checked : List Value),
      (∃ arguments, s.check function arguments = .ok checked) ↔ s.Admits checked)
    ∧ (∀ (b : Bindings) (t : Template), Scope.fill ⟨b, r⟩ t = Scope.fill ⟨b, r'⟩ t)
    ∧ ∀ (name : String) (arguments : List Value) (v : Value), r.call name arguments = .ok v →
      ∃ f, r.get? name = some f ∧ f.signature.returns.accepts v = true := by
  refine ⟨fun _ _ _ => exists_check_eq_ok_iff, fun b t => ?_,
    fun _ _ _ => Registry.accepts_of_call_eq_ok⟩
  have hcall : (Scope.mk b r).functions.call = (Scope.mk b r').functions.call := h.call_eq
  exact Scope.fill_congr hcall fun _ _ _ _ => rfl

namespace Example

/-- An absolute value that takes its one float for granted. -/
def hasty : Function where
  signature := { parameters := [.float], returns := .float }
  body
    | .float x :: _ => .ok (.float x.abs)
    | _ => .ok (.string "no float")

/-- The built-in functions with the hasty absolute value among them. -/
def hastyBuiltins : Registry := Registry.builtins.register "abs" hasty

theorem get?_hastyBuiltins (name : String) :
    hastyBuiltins.get? name = if "abs" = name then some hasty else Registry.builtins.get? name :=
  Fields.get?_insert _ _ _ _

theorem interchangeable_hastyBuiltins : Registry.builtins.Interchangeable hastyBuiltins := by
  constructor
  · intro name
    rw [get?_hastyBuiltins]
    split
    · rename_i hname
      subst hname
      rfl
    · rfl
  · intro name f f' hf hf' arguments hadmits
    rw [get?_hastyBuiltins] at hf'
    split at hf'
    · rename_i hname
      subst hname
      cases hf
      cases hf'
      obtain ⟨x, rest, rfl⟩ := Function.exists_float_of_admits hadmits
      rfl
    · rw [hf] at hf'
      cases hf'
      rfl

/-- The absolute value of minus three, an integer. -/
def distance : Template where
  source := "${abs(-3)}"
  parts := [.interpolation (.call "abs" [.literal (.integer (-3))])]

/-- The two bodies differ on an integer, but neither of them gets to see one. -/
theorem hasty_is_not_noticed :
    Registry.builtins.Interchangeable hastyBuiltins
      ∧ hasty.body [.integer (-3)] = .ok (.string "no float")
      ∧ Scope.fill ⟨.empty, Registry.builtins⟩ distance
        = .ok (.known (.float (Int64.toFloat (-3)).abs))
      ∧ Scope.fill ⟨.empty, hastyBuiltins⟩ distance
        = .ok (.known (.float (Int64.toFloat (-3)).abs)) := by
  have hdistance : Scope.fill ⟨.empty, Registry.builtins⟩ distance
      = .ok (.known (.float (Int64.toFloat (-3)).abs)) := rfl
  obtain ⟨-, hfill, -⟩ := bodies_see_what_is_admitted interchangeable_hastyBuiltins
  exact ⟨interchangeable_hastyBuiltins, rfl, hdistance, (hfill _ _).symm.trans hdistance⟩

end Example

end TemplatedConfig
