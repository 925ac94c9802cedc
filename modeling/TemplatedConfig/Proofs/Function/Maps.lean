/-
# Three functions on one map

Templates pair the list that `keys` gives with the list that `values` gives, and look up in the map
what stands under a key.  The three say the same about a map (`keys_values_and_lookup_agree`): the
keys ascend strictly, the values stand in the order of the keys, and each is what is looked up under
its key.

A map comes in the order in which its keys were first set.  No built-in function lets that order
through: what it does with a map depends on the values under the keys alone, also where it fails
(`call_eq_of_perm`).
-/
import TemplatedConfig.Proofs.Fields
import TemplatedConfig.Proofs.Function.Admission
import TemplatedConfig.Scope.Operation

namespace TemplatedConfig

open Registry (builtins)

/-! ## 1. What the functions give -/

namespace Function

/-- **The values of entries are listed** if all of them are strings, and then as they are. -/
theorem mapM_flatEntry_eq_ok_iff {entries : Fields Value} {vs : List Value} :
    entries.mapM flatEntry = .ok vs
      ↔ (∀ e ∈ entries, ∃ text, e.2 = .string text) ∧ vs = entries.map Prod.snd := by
  induction entries generalizing vs with
  | nil => simp [pure, Except.pure, eq_comm]
  | cons e rest ih =>
    obtain ⟨key, v⟩ := e
    have hflat : ∀ b, flatEntry (key, v) = .ok b ↔ (∃ text, v = .string text) ∧ b = v := by
      intro b
      cases v <;> simp [flatEntry, eq_comm]
    simp only [mapM_cons_eq_ok_iff, hflat, ih, List.forall_mem_cons, List.map_cons]
    constructor
    · rintro ⟨b, bs, ⟨hv, rfl⟩, ⟨hrest, rfl⟩, rfl⟩
      exact ⟨⟨hv, hrest⟩, rfl⟩
    · rintro ⟨⟨hv, hrest⟩, rfl⟩
      exact ⟨v, _, ⟨hv, rfl⟩, ⟨hrest, rfl⟩, rfl⟩

variable {fields : Fields Value}

/-- The keys are those of the map, sorted. -/
theorem call_keys (fields : Fields Value) :
    builtins.call "keys" [.mapping fields]
      = .ok (.sequence (fields.sorted.keys.map .string)) := rfl

/-- The values are those of the map, in the order of the sorted keys. -/
theorem call_values (fields : Fields Value) :
    builtins.call "values" [.mapping fields]
      = (fields.sorted.mapM flatEntry).map Value.sequence := by
  show (Except.map Value.sequence (fields.sorted.mapM flatEntry) >>=
    Registry.checkResult "values" .list) = _
  cases fields.sorted.mapM flatEntry <;> rfl

/-- **They are listed if all are strings.** -/
theorem call_values_eq_ok_iff {v : Value} :
    builtins.call "values" [.mapping fields] = .ok v
      ↔ (∀ e ∈ fields, ∃ text, e.2 = .string text)
        ∧ v = .sequence (fields.sorted.map Prod.snd) := by
  have hmem : ∀ e, e ∈ fields.sorted ↔ e ∈ fields := fun e => (Fields.sorted_perm fields).mem_iff
  simp only [call_values, map_eq_ok_iff, mapM_flatEntry_eq_ok_iff, hmem]
  constructor
  · rintro ⟨vs, ⟨hstrings, rfl⟩, rfl⟩
    exact ⟨hstrings, rfl⟩
  · rintro ⟨hstrings, rfl⟩
    exact ⟨_, ⟨hstrings, rfl⟩, rfl⟩

/-- **Otherwise the first key is at fault** under which there is no string. -/
theorem exists_of_call_values_eq_error (h : fields.keys.Nodup) {fault : Fault}
    (hfault : builtins.call "values" [.mapping fields] = .error fault) :
    ∃ key v, (key, v) ∈ fields ∧ (∀ text, v ≠ .string text)
      ∧ (∀ e ∈ fields, e.1 < key → ∃ text, e.2 = .string text)
      ∧ fault = Fault.of (.valuesNotFlat key v.kind) := by
  have hflat : ∀ e : String × Value, (∃ b, flatEntry e = .ok b) ↔ ∃ text, e.2 = .string text := by
    rintro ⟨key, v⟩
    cases v <;> simp [flatEntry]
  rw [call_values, map_eq_error_iff, mapM_eq_error_iff] at hfault
  obtain ⟨before, ⟨key, v⟩, after, hsplit, hbefore, hentry⟩ :=
    findSome?_error?_eq_some_iff.mp hfault
  have hmem : ∀ e, e ∈ fields ↔ e ∈ before ++ (key, v) :: after := fun e => by
    rw [← hsplit, (Fields.sorted_perm fields).mem_iff]
  have hascending := Fields.pairwise_keys_sorted h
  rw [hsplit, Fields.keys, List.map_append, List.map_cons, List.pairwise_append,
    List.pairwise_cons] at hascending
  obtain ⟨-, ⟨hlater, -⟩, -⟩ := hascending
  refine ⟨key, v, (hmem _).mpr (by simp), fun text hv => ?_, fun e he hlt => ?_, ?_⟩
  · obtain ⟨b, hb⟩ := (hflat (key, v)).mpr ⟨text, hv⟩
    rw [hb] at hentry
    cases hentry
  · rcases List.mem_append.mp ((hmem e).mp he) with he | he
    · exact (hflat e).mp (hbefore e he)
    · rcases List.mem_cons.mp he with rfl | he
      · exact absurd hlt Std.lt_irrefl
      · exact absurd (Std.lt_trans hlt (hlater e.1 (List.mem_map_of_mem he))) Std.lt_irrefl
  · cases v <;> cases hentry <;> rfl

/-- A string of the map is found under its key. -/
theorem call_lookup_of_get? {key text : String} (h : fields.get? key = some (.string text)) :
    builtins.call "lookup" [.mapping fields, .string key] = .ok (.string text) := by
  show (lookupIn fields key none >>= Registry.checkResult "lookup" .string) = _
  rw [lookupIn, h]
  rfl

/-- Under a key that is not there nothing is found. -/
theorem call_lookup_of_not_mem {key : String} (h : key ∉ fields.keys) :
    builtins.call "lookup" [.mapping fields, .string key]
      = .error (Fault.of (.lookupMissing key)) := by
  show (lookupIn fields key none >>= Registry.checkResult "lookup" .string) = _
  rw [lookupIn, Fields.get?_eq_none h]
  rfl

/-- Nothing is found there but the default, if one is given. -/
theorem call_lookup_default_of_not_mem {key : String} (h : key ∉ fields.keys) (default : String) :
    builtins.call "lookup" [.mapping fields, .string key, .string default]
      = .ok (.string default) := by
  show (lookupIn fields key (some (.string default)) >>= Registry.checkResult "lookup" .string) = _
  rw [lookupIn, Fields.get?_eq_none h]
  rfl

/-! ## 2. The order of the entries -/

/-- **A map passes the check as it is**, or does not pass it whatever is in it. -/
theorem check_mapping (s : Signature) (function : String) (rest : List Value) :
    (∃ fault, ∀ fields, s.check function (.mapping fields :: rest) = .error fault)
      ∨ ∃ checked, ∀ fields,
        s.check function (.mapping fields :: rest) = .ok (.mapping fields :: checked) := by
  have haccepts : ∀ fields, (s.typeAt 0).accepts (.mapping fields)
      = (s.typeAt 0).accepts (.mapping []) := by
    intro fields
    cases s.typeAt 0 <;> rfl
  have hwiden : ∀ fields, (s.typeAt 0).widen (.mapping fields) = .mapping fields := by
    intro fields
    cases s.typeAt 0 <;> rfl
  simp only [Signature.check, Signature.checkFrom, List.length_cons, haccepts, hwiden]
  split
  · split
    · cases s.checkFrom function (0 + 1) rest with
      | error fault => exact .inl ⟨fault, fun _ => rfl⟩
      | ok checked => exact .inr ⟨checked, fun _ => rfl⟩
    · exact .inl ⟨Fault.of (.argument function 1 (s.typeAt 0) .mapping), fun _ => rfl⟩
  · exact .inl ⟨_, fun _ => rfl⟩

/-- A built-in function does the same with a map in another order. -/
theorem body_eq_of_perm {fields other : Fields Value} (h : fields.keys.Nodup)
    (hperm : fields.Perm other) {name : String} {f : Function}
    (hf : builtins.get? name = some f) (rest : List Value) :
    f.body (.mapping other :: rest) = f.body (.mapping fields :: rest) := by
  refine of_builtins (P := fun f => f.body (.mapping other :: rest)
    = f.body (.mapping fields :: rest)) hf rfl ?lookup ?keys ?values
  case lookup =>
    have hget : other.get? = fields.get? := funext fun key => (Fields.get?_perm h hperm key).symm
    show lookup (.mapping other :: rest) = lookup (.mapping fields :: rest)
    simp only [lookup, withMap, lookupIn, hget, List.length_cons]
  case keys =>
    show keys (.mapping other :: rest) = keys (.mapping fields :: rest)
    simp only [keys, withMap, Fields.sorted_eq_of_perm h hperm]
  case values =>
    show values (.mapping other :: rest) = values (.mapping fields :: rest)
    simp only [values, withMap, Fields.sorted_eq_of_perm h hperm]

/-- **The order of a map makes no difference to a call**, whatever comes of it. -/
theorem call_eq_of_perm {fields other : Fields Value} (h : fields.keys.Nodup)
    (hperm : fields.Perm other) (name : String) (arguments : List Value) :
    builtins.call name (.mapping other :: arguments)
      = builtins.call name (.mapping fields :: arguments) := by
  unfold Registry.call
  cases hf : builtins.get? name with
  | none => rfl
  | some f =>
    rcases check_mapping f.signature name arguments with ⟨fault, hcheck⟩ | ⟨checked, hcheck⟩
    · dsimp only
      rw [hcheck, hcheck]
    · dsimp only
      rw [hcheck, hcheck]
      show (f.body (.mapping other :: checked) >>= _) = (f.body (.mapping fields :: checked) >>= _)
      rw [body_eq_of_perm h hperm hf]

/-! ## 3. All three together -/

/-- **Keys, values and what is looked up agree.**  The keys of a map ascend strictly.  The values
are listed if all are strings, as many as there are keys, and the value at each position is what an
index and a lookup give for the key at that position; if not, the first key is at fault that has
something else.  Looking up a key that is not there fails, or gives the default.  And the order in
which the map was filled makes no difference to any of this. -/
theorem keys_values_and_lookup_agree {fields : Fields Value} (h : fields.keys.Nodup) :
    ∃ ks : List String,
      builtins.call "keys" [.mapping fields] = .ok (.sequence (ks.map .string))
      ∧ ks.Pairwise (· < ·) ∧ (∀ key, key ∈ ks ↔ key ∈ fields.keys)
      ∧ ((∃ v, builtins.call "values" [.mapping fields] = .ok v)
          ↔ ∀ e ∈ fields, ∃ text, e.2 = .string text)
      ∧ (∀ v, builtins.call "values" [.mapping fields] = .ok v →
          ∃ vs, v = .sequence vs ∧ vs.length = ks.length
            ∧ ∀ (position : Nat) key, ks[position]? = some key → ∃ w, vs[position]? = some w
              ∧ (∀ expr, Operation.index expr (.mapping fields) (.string key) = .ok w)
              ∧ builtins.call "lookup" [.mapping fields, .string key] = .ok w)
      ∧ (∀ fault, builtins.call "values" [.mapping fields] = .error fault →
          ∃ key v, (key, v) ∈ fields ∧ (∀ text, v ≠ .string text)
            ∧ (∀ e ∈ fields, e.1 < key → ∃ text, e.2 = .string text)
            ∧ fault = Fault.of (.valuesNotFlat key v.kind))
      ∧ (∀ key, key ∉ fields.keys →
          (∃ fault, builtins.call "lookup" [.mapping fields, .string key] = .error fault)
          ∧ ∀ default, builtins.call "lookup" [.mapping fields, .string key, .string default]
            = .ok (.string default))
      ∧ ∀ other, fields.Perm other → ∀ name arguments,
          builtins.call name (.mapping other :: arguments)
            = builtins.call name (.mapping fields :: arguments) := by
  have hkeys : fields.sorted.keys.Perm fields.keys := (Fields.sorted_perm fields).map Prod.fst
  refine ⟨fields.sorted.keys, call_keys fields, Fields.pairwise_keys_sorted h,
    fun key => hkeys.mem_iff, ?_, fun v hv => ?_,
    fun fault hfault => exists_of_call_values_eq_error h hfault, fun key hkey => ?_,
    fun other hperm => call_eq_of_perm h hperm⟩
  · simp only [call_values_eq_ok_iff, exists_and_left, exists_eq, and_true]
  · obtain ⟨hstrings, rfl⟩ := call_values_eq_ok_iff.mp hv
    refine ⟨_, rfl, by rw [Fields.keys, List.length_map, List.length_map],
      fun position key hkey => ?_⟩
    rw [Fields.keys, List.getElem?_map] at hkey
    obtain ⟨⟨key, w⟩, hentry, rfl⟩ := Option.map_eq_some_iff.mp hkey
    have hmem : (key, w) ∈ fields :=
      (Fields.sorted_perm fields).mem_iff.mp (List.mem_of_getElem? hentry)
    obtain ⟨text, rfl⟩ := hstrings _ hmem
    have hget : fields.get? key = some (.string text) := Fields.get?_of_mem h hmem
    refine ⟨.string text, by rw [List.getElem?_map, hentry]; rfl, fun expr => ?_,
      call_lookup_of_get? hget⟩
    rw [Operation.index, hget]
  · exact ⟨⟨_, call_lookup_of_not_mem hkey⟩, call_lookup_default_of_not_mem hkey⟩

namespace Example

/-- Two versions, the later name first. -/
def versions : Fields Value := [("nginx", .string "1.25"), ("mysql", .string "8.0")]

/-- The same versions, filled in the other way round. -/
def reordered : Fields Value := [("mysql", .string "8.0"), ("nginx", .string "1.25")]

/-- Their values are listed in the order of the names, and a name that is not there is looked up in
vain. -/
theorem versions_are_listed :
    versions.keys.Nodup ∧ versions.Perm reordered
      ∧ (∃ (ks : List String) (vs : List Value),
        builtins.call "keys" [.mapping versions] = .ok (.sequence (ks.map .string))
        ∧ ks.Pairwise (· < ·) ∧ "mysql" ∈ ks
        ∧ builtins.call "values" [.mapping versions] = .ok (.sequence vs)
        ∧ vs.length = ks.length)
      ∧ (∃ fault, builtins.call "lookup" [.mapping versions, .string "redis"] = .error fault)
      ∧ builtins.call "values" [.mapping reordered]
        = builtins.call "values" [.mapping versions] := by
  have hnodup : versions.keys.Nodup := by decide
  have hperm : versions.Perm reordered := List.Perm.swap _ _ _
  have hstrings : ∀ e ∈ versions, ∃ text, e.2 = .string text := by
    simp [versions]
  obtain ⟨ks, hkeys, hascending, hmem, hvalues, heach, -, habsent, horder⟩ :=
    keys_values_and_lookup_agree hnodup
  obtain ⟨v, hv⟩ := hvalues.mpr hstrings
  obtain ⟨vs, rfl, hlength, -⟩ := heach v hv
  exact ⟨hnodup, hperm,
    ⟨ks, vs, hkeys, hascending, (hmem "mysql").mpr (by decide), hv, hlength⟩,
    (habsent "redis" (by decide)).1, horder reordered hperm "values" []⟩

end Example

end Function

end TemplatedConfig
