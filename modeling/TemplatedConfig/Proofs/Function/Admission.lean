/-
# What the body of a function gets to see

Arguments are checked and widened before the body of a function sees them, and the built-in
bodies take them apart without looking again.  `Signature.Admits` says what a list of arguments
looks like after the check: the number is allowed, every value is of the type at its position,
and no integer stands where a float is expected.  `check_admits` is the promise of the check, and
`exists_check_eq_ok_iff` says that it promises no more than that.

A function is `Sound` if, on arguments that its signature admits, its body fails only for a
reason that lies in the arguments (`Blameless`) and answers only with values of the declared
type.  `call_blameless` says that calling sound functions cannot go wrong in any other way, and
`builtins_sound` that the built-in functions are sound.  So the branches of the built-in bodies
that report a missing argument are never taken.
-/
import TemplatedConfig.Proofs.Results
import TemplatedConfig.Function.Basic

namespace TemplatedConfig

/-! ## 1. Arguments after the check -/

/-- A value as a function sees it at a parameter of a type. -/
def ArgumentType.Sees (type : ArgumentType) (v : Value) : Prop :=
  type.accepts v = true ∧ (type = .float → v.kind ≠ .integer)

/-- A value that is accepted is seen after widening. -/
theorem ArgumentType.sees_widen {type : ArgumentType} {v : Value} (h : type.accepts v = true) :
    type.Sees (type.widen v) := by
  cases type <;> cases v <;> simp_all [Sees, accepts, widen, Value.kind]

/-- The arguments that the body of a function with this signature can get to see. -/
structure Signature.Admits (s : Signature) (arguments : List Value) : Prop where
  count : s.acceptsCount arguments.length = true
  sees : ∀ (position : Nat) (v : Value), arguments[position]? = some v → (s.typeAt position).Sees v

/-- Checking from a position on keeps the number of arguments, and every one is seen with the
type at its position. -/
theorem checkFrom_sees {s : Signature} {function : String} {start : Nat}
    {arguments checked : List Value} (h : s.checkFrom function start arguments = .ok checked) :
    checked.length = arguments.length
      ∧ ∀ position v, checked[position]? = some v → (s.typeAt (start + position)).Sees v := by
  induction arguments generalizing start checked with
  | nil =>
    cases h
    exact ⟨rfl, fun _ _ hv => by simp at hv⟩
  | cons first rest ih =>
    rw [Signature.checkFrom] at h
    split at h
    · rename_i haccepts
      obtain ⟨checked', hrest, h⟩ := exists_of_bind_eq_ok h
      cases h
      obtain ⟨hlength, hsees⟩ := ih hrest
      refine ⟨by rw [List.length_cons, List.length_cons, hlength], fun position v hv => ?_⟩
      cases position with
      | zero =>
        cases hv
        exact ArgumentType.sees_widen haccepts
      | succ position =>
        have hv' := hsees position v (by simpa using hv)
        rwa [Nat.add_right_comm, Nat.add_assoc] at hv'
    · cases h

/-- **What passes the check is admitted.** -/
theorem check_admits {s : Signature} {function : String} {arguments checked : List Value}
    (h : s.check function arguments = .ok checked) : s.Admits checked := by
  unfold Signature.check at h
  split at h
  · rename_i hcount
    obtain ⟨hlength, hsees⟩ := checkFrom_sees h
    refine ⟨by rw [hlength]; exact hcount, fun position v hv => ?_⟩
    simpa using hsees position v hv
  · cases h

/-- A value that is seen already is not widened further. -/
theorem ArgumentType.Sees.widen_eq {type : ArgumentType} {v : Value} (h : type.Sees v) :
    type.widen v = v := by
  cases type <;> cases v <;> simp_all [Sees, widen, Value.kind]

/-- Arguments that are seen with the types at their positions pass from there on as they are. -/
theorem checkFrom_of_sees {s : Signature} {function : String} {start : Nat}
    {arguments : List Value}
    (h : ∀ position v, arguments[position]? = some v → (s.typeAt (start + position)).Sees v) :
    s.checkFrom function start arguments = .ok arguments := by
  induction arguments generalizing start with
  | nil => rfl
  | cons first rest ih =>
    have hfirst : (s.typeAt start).Sees first := h 0 first rfl
    have hrest : s.checkFrom function (start + 1) rest = .ok rest := by
      refine ih fun position v hv => ?_
      rw [Nat.add_right_comm, Nat.add_assoc]
      exact h (position + 1) v (by simpa using hv)
    rw [Signature.checkFrom, if_pos hfirst.1, hrest, hfirst.widen_eq]
    rfl

/-- **What is admitted passes the check as it is.** -/
theorem Signature.Admits.check_eq {s : Signature} {arguments : List Value}
    (h : s.Admits arguments) (function : String) : s.check function arguments = .ok arguments := by
  rw [Signature.check, if_pos h.count]
  exact checkFrom_of_sees fun position v hv => by simpa using h.sees position v hv

/-- **The arguments that bodies see are those that their signature admits.** -/
theorem exists_check_eq_ok_iff {s : Signature} {function : String} {checked : List Value} :
    (∃ arguments, s.check function arguments = .ok checked) ↔ s.Admits checked :=
  ⟨fun ⟨_, h⟩ => check_admits h, fun h => ⟨checked, h.check_eq function⟩⟩

/-! ## 2. Faults that lie in the operands -/

/-- A result that fails, if at all, with a fault that has a property. -/
def FailsWith {α : Type} (P : Fault → Prop) (r : Except Fault α) : Prop :=
  ∀ fault, r = .error fault → P fault

namespace FailsWith

variable {α β : Type} {P Q : Fault → Prop}

@[simp] theorem ok (a : α) : FailsWith P (.ok a) := fun _ h => nomatch h

theorem error {fault : Fault} (h : P fault) : FailsWith P (.error fault : Except Fault α) := by
  rintro _ ⟨⟩
  exact h

/-- Nothing need be known of a fault. -/
theorem any (r : Except Fault α) : FailsWith (fun _ => True) r := fun _ _ => trivial

theorem mono {r : Except Fault α} (hr : FailsWith P r) (h : ∀ fault, P fault → Q fault) :
    FailsWith Q r := fun fault hfault => h fault (hr fault hfault)

theorem bind {x : Except Fault α} {f : α → Except Fault β} (hx : FailsWith P x)
    (hf : ∀ a, x = .ok a → FailsWith P (f a)) : FailsWith P (x.bind f) := by
  cases x with
  | error fault => exact error (hx fault rfl)
  | ok a => exact hf a rfl

theorem map {x : Except Fault α} (f : α → β) (hx : FailsWith P x) : FailsWith P (x.map f) := by
  cases x with
  | error fault => exact error (hx fault rfl)
  | ok a => exact ok _

theorem mapM {f : α → Except Fault β} {l : List α} (h : ∀ a ∈ l, FailsWith P (f a)) :
    FailsWith P (l.mapM f) := by
  intro fault hfault
  obtain ⟨a, ha, hf⟩ := exists_of_mapM_eq_error hfault
  exact h a ha fault hf

/-- What is added to a fault on the way out. -/
theorem mapError {x : Except Fault α} {g : Fault → Fault} (hx : FailsWith P x)
    (h : ∀ fault, P fault → Q (g fault)) : FailsWith Q (x.mapError g) := by
  cases x with
  | error fault => exact error (h fault (hx fault rfl))
  | ok a => exact ok a

theorem foldlM {step : β → α → Except Fault β} {l : List α}
    (h : ∀ a ∈ l, ∀ b, FailsWith P (step b a)) (b : β) : FailsWith P (l.foldlM step b) := by
  induction l generalizing b with
  | nil => exact ok b
  | cons a rest ih =>
    rw [List.foldlM_cons]
    exact (h a List.mem_cons_self b).bind fun next _ =>
      ih (fun a' ha' => h a' (List.mem_cons_of_mem _ ha')) next

end FailsWith

namespace Fault

/-- A fault of a kind that an operator or a function raises about the values it was given. -/
def IsBlameless (fault : Fault) : Prop := fault.kind = .type ∨ fault.kind = .evaluation

/-- Nothing is known of a fault but its cause. -/
def IsBare (fault : Fault) : Prop := fault = Fault.of fault.cause

/-- A fault as an operator or a function raises it about the values it was given. -/
def IsOfValues (fault : Fault) : Prop := fault.IsBare ∧ fault.IsBlameless

end Fault

/-- A result that fails, if at all, because of the values that went into it. -/
def Blameless {α : Type} (r : Except Fault α) : Prop :=
  ∀ fault, r = .error fault → fault.IsBlameless

/-! ## 3. Calls -/

/-- A failed check is about the arguments. -/
theorem check_failsWith (s : Signature) (function : String) (arguments : List Value) :
    FailsWith Fault.IsOfValues (s.check function arguments) := by
  have hfrom : ∀ start, FailsWith Fault.IsOfValues (s.checkFrom function start arguments) := by
    induction arguments with
    | nil => exact fun _ => .ok _
    | cons v rest ih =>
      intro start
      rw [Signature.checkFrom]
      split
      · exact (ih (start + 1)).map _
      · exact .error ⟨rfl, .inl rfl⟩
  unfold Signature.check
  split
  · exact hfrom 0
  · exact .error ⟨rfl, .inl rfl⟩

/-- A function that keeps its promise on the arguments it declares. -/
structure Function.Sound (f : Function) : Prop where
  blameless : ∀ arguments, f.signature.Admits arguments → Blameless (f.body arguments)
  returns : ∀ arguments v, f.signature.Admits arguments → f.body arguments = .ok v →
    f.signature.returns.accepts v = true

/-- **Calling sound functions fails only because of the name or the arguments.** -/
theorem call_blameless {r : Registry} (h : ∀ name f, r.get? name = some f → f.Sound)
    (name : String) (arguments : List Value) :
    FailsWith Fault.IsBlameless (r.call name arguments) := by
  unfold Registry.call
  split
  · exact .error (.inr rfl)
  · rename_i f hf
    refine ((check_failsWith f.signature name arguments).mono fun _ => And.right).bind
      fun checked hchecked => ?_
    have hadmits := check_admits hchecked
    refine FailsWith.bind ((h name f hf).blameless checked hadmits) fun v hv => ?_
    rw [Registry.checkResult, if_pos ((h name f hf).returns checked v hadmits hv)]
    exact .ok _

/-- Whatever goes wrong in a call, it does not say where, if the bodies of the functions do not. -/
theorem call_bare {r : Registry}
    (h : ∀ name f, r.get? name = some f → ∀ arguments, FailsWith Fault.IsBare (f.body arguments))
    (name : String) (arguments : List Value) :
    FailsWith Fault.IsBare (r.call name arguments) := by
  unfold Registry.call
  split
  · exact .error rfl
  · rename_i f hf
    refine ((check_failsWith f.signature name arguments).mono fun _ => And.left).bind
      fun checked _ => (h name f hf checked).bind fun v _ => ?_
    unfold Registry.checkResult
    split
    · exact .ok _
    · exact .error rfl

/-! ## 4. The built-in functions -/

namespace Function

/-- A map is seen as a mapping. -/
theorem exists_fields_of_sees {v : Value} (h : ArgumentType.map.Sees v) :
    ∃ fields, v = .mapping fields := by
  cases v <;> simp_all [ArgumentType.Sees, ArgumentType.accepts]

/-- A signature that starts with a map admits only arguments that do. -/
theorem exists_fields_of_admits {s : Signature} {arguments : List Value}
    {more : List ArgumentType} (hs : s.parameters = .map :: more) (h : s.Admits arguments) :
    ∃ fields rest, arguments = .mapping fields :: rest := by
  cases arguments with
  | nil =>
    have hcount := h.count
    rw [Signature.acceptsCount] at hcount
    split at hcount <;> simp [hs] at hcount
  | cons v rest =>
    have hsees := h.sees 0 v rfl
    rw [Signature.typeAt, hs] at hsees
    obtain ⟨fields, rfl⟩ := exists_fields_of_sees hsees
    exact ⟨fields, rest, rfl⟩

/-- A signature with one float for its parameter admits only arguments that start with a float. -/
theorem exists_float_of_admits {arguments : List Value}
    (h : Signature.Admits { parameters := [.float], returns := .float } arguments) :
    ∃ x rest, arguments = .float x :: rest := by
  cases arguments with
  | nil => exact absurd h.count (by decide)
  | cons v rest =>
    have hsees : ArgumentType.float.Sees v := h.sees 0 v rfl
    cases v <;> simp_all [ArgumentType.Sees, ArgumentType.accepts, Value.kind]

/-- The absolute value sees one float. -/
theorem absolute_sound :
    Sound { signature := { parameters := [.float], returns := .float }, body := absolute } := by
  constructor
  · intro arguments h
    obtain ⟨x, rest, rfl⟩ := exists_float_of_admits h
    exact FailsWith.ok _
  · intro arguments v h hv
    obtain ⟨x, rest, rfl⟩ := exists_float_of_admits h
    cases hv
    rfl

/-- Looking a key up gives a string of the map or the default. -/
theorem lookupIn_eq_ok {fields : Fields Value} {key : String} {default : Option Value} {v : Value}
    (h : lookupIn fields key default = .ok v) : (∃ s, v = .string s) ∨ default = some v := by
  unfold lookupIn at h
  split at h
  · cases h
    exact .inl ⟨_, rfl⟩
  · cases h
  · split at h
    · cases h
      exact .inr rfl
    · cases h

theorem lookupIn_failsWith (fields : Fields Value) (key : String) (default : Option Value) :
    FailsWith Fault.IsOfValues (lookupIn fields key default) := by
  unfold lookupIn
  split
  · exact .ok _
  · exact .error ⟨rfl, .inl rfl⟩
  · split
    · exact .ok _
    · exact .error ⟨rfl, .inr rfl⟩

theorem lookup_failsWith (fields : Fields Value) (rest : List Value) :
    FailsWith Fault.IsOfValues (lookup (.mapping fields :: rest)) := by
  unfold lookup
  split
  · exact .error ⟨rfl, .inl rfl⟩
  · exact lookupIn_failsWith _ _ _

/-- Looking up sees a map first and strings after it. -/
theorem lookup_sound :
    Sound { signature := { parameters := [.map, .string], variadic := some .string,
                           returns := .string }
            body := lookup } := by
  constructor
  · intro arguments h
    obtain ⟨fields, rest, rfl⟩ := exists_fields_of_admits rfl h
    exact (lookup_failsWith fields rest).mono fun _ => And.right
  · intro arguments v h hv
    obtain ⟨fields, rest, rfl⟩ := exists_fields_of_admits rfl h
    change lookup (.mapping fields :: rest) = .ok v at hv
    unfold lookup at hv
    split at hv
    · cases hv
    · rcases lookupIn_eq_ok hv with ⟨s, rfl⟩ | hdefault
      · rfl
      · exact (h.sees 2 v hdefault).1

/-- Listing keys sees a map. -/
theorem keys_sound :
    Sound { signature := { parameters := [.map], returns := .list }, body := keys } := by
  constructor
  · intro arguments h
    obtain ⟨fields, rest, rfl⟩ := exists_fields_of_admits rfl h
    exact FailsWith.ok _
  · intro arguments v h hv
    obtain ⟨fields, rest, rfl⟩ := exists_fields_of_admits rfl h
    cases hv
    rfl

theorem values_failsWith (fields : Fields Value) (rest : List Value) :
    FailsWith Fault.IsOfValues (values (.mapping fields :: rest)) := by
  refine FailsWith.map _ (FailsWith.mapM fun entry _ => ?_)
  unfold flatEntry
  split
  · exact .ok _
  · exact .error ⟨rfl, .inl rfl⟩

/-- Listing values sees a map. -/
theorem values_sound :
    Sound { signature := { parameters := [.map], returns := .list }, body := values } := by
  constructor
  · intro arguments h
    obtain ⟨fields, rest, rfl⟩ := exists_fields_of_admits rfl h
    exact (values_failsWith fields rest).mono fun _ => And.right
  · intro arguments v h hv
    obtain ⟨fields, rest, rfl⟩ := exists_fields_of_admits rfl h
    change Except.map Value.sequence ((Fields.sorted fields).mapM flatEntry) = .ok v at hv
    obtain ⟨items, -, rfl⟩ := exists_of_map_eq_ok hv
    rfl

/-- A built-in function of the registry is one of four. -/
theorem of_builtins {P : Function → Prop} {name : String} {f : Function}
    (h : Registry.builtins.get? name = some f)
    (habsolute : P { signature := { parameters := [.float], returns := .float }, body := absolute })
    (hlookup : P { signature := { parameters := [.map, .string], variadic := some .string,
                                  returns := .string }
                   body := lookup })
    (hkeys : P { signature := { parameters := [.map], returns := .list }, body := keys })
    (hvalues : P { signature := { parameters := [.map], returns := .list }, body := values }) :
    P f := by
  simp only [Registry.builtins, Registry.get?, Fields.get?] at h
  split at h
  · cases h; exact habsolute
  · split at h
    · cases h; exact hlookup
    · split at h
      · cases h; exact hkeys
      · split at h
        · cases h; exact hvalues
        · cases h

end Function

/-- **The built-in functions are sound.** -/
theorem builtins_sound (name : String) (f : Function)
    (h : Registry.builtins.get? name = some f) : f.Sound :=
  Function.of_builtins h Function.absolute_sound Function.lookup_sound Function.keys_sound
    Function.values_sound

/-- What goes wrong in a built-in function does not say where, whatever the arguments are. -/
theorem builtins_bare (name : String) (f : Function) (h : Registry.builtins.get? name = some f)
    (arguments : List Value) : FailsWith Fault.IsBare (f.body arguments) := by
  have hmap : ∀ {function use}, (∀ fields rest, FailsWith Fault.IsBare (use fields rest)) →
      FailsWith Fault.IsBare (Function.withMap function use arguments) := by
    intro function use huse
    unfold Function.withMap
    split
    · exact huse _ _
    · exact .error rfl
  refine Function.of_builtins (P := fun f => FailsWith Fault.IsBare (f.body arguments)) h
    ?absolute ?lookup ?keys ?values
  case absolute =>
    show FailsWith Fault.IsBare (Function.absolute arguments)
    unfold Function.absolute
    split
    · exact .ok _
    · exact .error rfl
  case lookup =>
    show FailsWith Fault.IsBare (Function.lookup arguments)
    unfold Function.lookup
    split
    · exact .error rfl
    · exact hmap fun fields rest => (Function.lookupIn_failsWith _ _ _).mono fun _ => And.left
  case keys => exact hmap fun fields rest => .ok _
  case values =>
    exact hmap fun fields rest => (Function.values_failsWith fields rest).mono fun _ => And.left

end TemplatedConfig
