/-
# Normalized defaults

Normalizing a variable brings its default into the canonical form of its type and leaves the rest
of it alone.  `normalization_is_canonical` says what that form is, that normalizing again changes
nothing, and that a variable that cannot be normalized stays as it is.

The one canonical form that has to be computed is that of a list of mappings, which are put together
from left to right.  It is described by its keys and by its values (`Fields.keys_ofList_flatten`,
`Fields.get?_ofList_flatten`): the keys stand in the order in which they first appear in the list,
and the value of a key is the one that it has in the last mapping with that key.
-/
import TemplatedConfig.Proofs.Config.Normalization
import TemplatedConfig.Proofs.Config.Pass
import TemplatedConfig.Proofs.Fields

namespace TemplatedConfig

/-! ## 1. Mappings put together -/

namespace Fields

variable {α : Type}

/-- What is found in rows of entries, one after another, is what is found in the first that has the
key. -/
theorem get?_flatten (rows : List (Fields α)) (key : String) :
    get? rows.flatten key = rows.findSome? fun fields => fields.get? key := by
  induction rows with
  | nil => rfl
  | cons fields rest ih =>
    rw [List.flatten_cons, get?_append, List.findSome?_cons, ih]
    cases fields.get? key <;> rfl

/-- **Rows of entries that are set one after another** leave the keys in the order of their first
appearance. -/
theorem keys_ofList_flatten (rows : List (Fields α)) :
    (ofList rows.flatten).keys = (rows.flatMap keys).eraseDups := by
  have hkeys : keys rows.flatten = rows.flatMap keys := by
    rw [keys, List.map_flatten]
    rfl
  have hnone : (keys ([] : Fields α)).Nodup := List.nodup_nil
  rw [ofList, keys_insertAll hnone, hkeys]
  rfl

/-- **They leave each key with the value that it has in the last row with that key.** -/
theorem get?_ofList_flatten {rows : List (Fields α)} (h : ∀ fields ∈ rows, fields.keys.Nodup)
    (key : String) :
    (ofList rows.flatten).get? key = rows.reverse.findSome? fun fields => fields.get? key := by
  have hlast : ∀ rows : List (Fields α), (∀ fields ∈ rows, fields.keys.Nodup) →
      rows.findSome? (fun fields => get? fields.reverse key)
        = rows.findSome? fun fields => fields.get? key := by
    intro rows hrows
    induction rows with
    | nil => rfl
    | cons fields rest ih =>
      obtain ⟨hfields, hrest⟩ := List.forall_mem_cons.mp hrows
      rw [List.findSome?_cons, List.findSome?_cons, ih hrest,
        get?_perm hfields (List.reverse_perm fields).symm]
  rw [ofList, get?_insertAll, List.reverse_flatten, get?_flatten, ← List.map_reverse,
    List.findSome?_map]
  exact (Option.or_none).trans
    (hlast rows.reverse fun fields hmem => h fields (List.mem_reverse.mp hmem))

end Fields

namespace Value

/-- Mappings are put together by setting the entries of one after another. -/
theorem mergedItems?_mappings (merged : Fields Value) (maps : List (Fields Value)) :
    mergedItems? merged (maps.map mapping) = some (merged.insertAll maps.flatten) := by
  induction maps generalizing merged with
  | nil => rfl
  | cons fields rest ih =>
    show mergedItems? (merged.insertAll fields) (rest.map mapping) = _
    rw [ih, List.flatten_cons]
    exact congrArg some (List.foldl_append).symm

/-- Only mappings are put together. -/
theorem exists_of_mergedItems?_eq_some {merged fields : Fields Value} {items : List Value}
    (h : mergedItems? merged items = some fields) :
    ∃ maps : List (Fields Value), items = maps.map mapping := by
  induction items generalizing merged with
  | nil => exact ⟨[], rfl⟩
  | cons v rest ih =>
    cases v with
    | mapping first =>
      obtain ⟨maps, rfl⟩ := ih h
      exact ⟨first :: maps, rfl⟩
    | _ => cases h

/-- **The canonical form of a list of mappings** is all of them put together. -/
theorem canonical_mappings {maps : List (Fields Value)} (h : maps ≠ []) :
    (sequence (maps.map mapping)).canonical = mapping (Fields.ofList maps.flatten) := by
  obtain ⟨first, rest, rfl⟩ := List.exists_cons_of_ne_nil h
  have hmap : (sequence ((first :: rest).map mapping)).asMap?
      = some (Fields.ofList (first :: rest).flatten) :=
    mergedItems?_mappings [] (first :: rest)
  rw [canonical, canonical?_sequence, hmap]

/-- A value that is in canonical form as it is: a string, a mapping, or a list that is empty or has
something else than mappings in it. -/
def IsCanonical (v : Value) : Prop :=
  v.kind = .string ∨ v.kind = .mapping
    ∨ ∃ items, v = .sequence items
      ∧ ∀ maps : List (Fields Value), items = maps.map mapping → maps = []

theorem IsCanonical.canonical {v : Value} (h : v.IsCanonical) : v.canonical = v := by
  rcases h with hkind | hkind | ⟨items, rfl, hother⟩
  · cases v with
    | string text => rfl
    | _ => cases hkind
  · cases v with
    | mapping fields => rfl
    | _ => cases hkind
  · have hmap : (sequence items).asMap? = none := by
      cases items with
      | nil => rfl
      | cons first rest =>
        cases hmerged : mergedItems? [] (first :: rest) with
        | none => exact hmerged
        | some fields =>
          obtain ⟨maps, hmaps⟩ := exists_of_mergedItems?_eq_some hmerged
          rw [hother maps hmaps] at hmaps
          cases hmaps
    rw [Value.canonical, canonical?_sequence, hmap]

end Value

/-! ## 2. Variables -/

/-- No word declares that the type is not known. -/
theorem VariableType.ofDeclared?_ne_unknown (word : String) : ofDeclared? word ≠ some unknown := by
  unfold ofDeclared?
  repeat' split
  all_goals exact fun h => by cases h

/-- What becomes of a variable that is normalized. -/
structure Variable.NormalizesTo (v w : Variable) : Prop where
  name : w.name = v.name
  declared : w.declared = v.declared
  description : w.description = v.description
  type : w.type = v.type
  /-- There is a default if there was one. -/
  given : w.default.isSome = v.default.isSome
  /-- It is a string, a list or a map, as the type says, or a null that was there without a type. -/
  shape : ∀ default, w.default = some default → w.type.kind? = some default.kind
    ∨ default = .null ∧ v.default = some .null ∧ v.declared = none
  /-- It is the same as before if that was in canonical form. -/
  kept : ∀ default, v.default = some default → default.IsCanonical → w.default = some default
  /-- A list of mappings has become one mapping, with the keys in the order of their first
  appearance, and for each key the value that it has in the last mapping with that key. -/
  merged : ∀ maps : List (Fields Value), v.default = some (.sequence (maps.map .mapping)) →
    maps ≠ [] → (∀ fields ∈ maps, fields.keys.Nodup) →
    ∃ fields, w.default = some (.mapping fields)
      ∧ Fields.keys fields = (maps.flatMap Fields.keys).eraseDups
      ∧ ∀ key, Fields.get? fields key = maps.reverse.findSome? fun fields => fields.get? key

namespace Variable

variable {v w : Variable}

/-- A default that is accepted is of the type of the variable. -/
theorem type_eq_inferredType {default : Value} (hsome : v.default = some default)
    (h : v.checkDefault default = .ok ()) : v.type = default.inferredType := by
  cases hdeclared : v.declared with
  | none => rw [type, hdeclared, hsome]
  | some word => exact checkDefault_eq_ok_iff.mp h (by rw [hdeclared]; rfl)

/-- A null is accepted only where no type is declared. -/
theorem declared_of_null (hdeclared : v.checkDeclared = .ok ())
    (h : v.checkDefault .null = .ok ()) : v.declared = none := by
  cases hword : v.declared with
  | none => rfl
  | some word =>
    obtain ⟨type, htype⟩ := checkDeclared_eq_ok_iff.mp hdeclared word hword
    have hunknown : v.type = .unknown := checkDefault_eq_ok_iff.mp h (by rw [hword]; rfl)
    rw [Variable.type, hword] at hunknown
    dsimp only at hunknown
    rw [htype, Option.getD_some] at hunknown
    rw [hunknown] at htype
    exact (VariableType.ofDeclared?_ne_unknown word htype).elim

/-- **A normalized variable** is the variable with its default in canonical form. -/
theorem normalizesTo_of_normalize (h : v.normalize = .ok w) : v.NormalizesTo w := by
  obtain ⟨hdeclared, hdefault, rfl⟩ := normalize_eq_ok_iff.mp h
  exact {
    name := rfl
    declared := rfl
    description := rfl
    type := v.type_canonical
    given := Option.isSome_map
    shape := fun default hsome => by
      obtain ⟨value, hvalue, rfl⟩ := Option.map_eq_some_iff.mp hsome
      have haccepted := hdefault value hvalue
      by_cases hnull : value = .null
      · subst hnull
        exact .inr ⟨rfl, hvalue, declared_of_null hdeclared haccepted⟩
      · refine .inl ?_
        rw [type_canonical, type_eq_inferredType hvalue haccepted, Value.kind?_inferredType hnull]
    kept := fun default hsome hcanonical => by
      rw [default_canonical hsome, hcanonical.canonical]
    merged := fun maps hsome hne hnodup =>
      ⟨Fields.ofList maps.flatten, by rw [default_canonical hsome, Value.canonical_mappings hne],
        Fields.keys_ofList_flatten maps, Fields.get?_ofList_flatten hnodup⟩ }

/-- **Normalizing is canonical, and does all or nothing.**  A variable can be normalized if it
declares no type, or one that exists and that its default is of.  If it cannot, a pass leaves it and
what comes after it as they are.  If it can, its default is brought into the form that the type
says, all else stays as it is, and normalizing again succeeds and changes nothing. -/
theorem normalization_is_canonical (v : Variable) :
    ((∃ w, v.normalize = .ok w)
      ↔ ∀ word, v.declared = some word → ∃ type, VariableType.ofDeclared? word = some type
        ∧ ∀ default, v.default = some default → default.inferredType = type)
    ∧ (∀ fault rest, v.normalize = .error fault →
        Config.stepUntilFault Config.normalizeVariable (v :: rest)
          = (v :: rest, some (fault.inside ("variable." ++ v.name))))
    ∧ ∀ w, v.normalize = .ok w →
        Config.stepUntilFault Config.normalizeVariable [v] = ([w], none)
        ∧ v.NormalizesTo w ∧ w.normalize = .ok w := by
  refine ⟨exists_normalize_eq_ok_iff, fun fault rest hfault => ?_, fun w hw => ⟨?_, ?_, ?_⟩⟩
  · rw [Config.stepUntilFault, Config.normalizeVariable, hfault]
    rfl
  · rw [Config.stepUntilFault, Config.normalizeVariable, hw]
    rfl
  · exact normalizesTo_of_normalize hw
  · exact normalize_normalized hw

namespace Example

/-- Tags in two mappings that share a key. -/
def tags : Variable where
  name := "tags"
  declared := some "map"
  default := some (.sequence
    [.mapping [("env", .string "dev"), ("team", .string "core")],
      .mapping [("zone", .string "a"), ("env", .string "prod")]])

/-- They become one mapping, with the later value in the earlier place. -/
theorem tags_are_merged :
    ∃ w, tags.normalize = .ok w ∧ w.normalize = .ok w ∧ w.type = .map
      ∧ ∃ fields, w.default = some (.mapping fields)
        ∧ Fields.keys fields = ["env", "team", "zone"]
        ∧ Fields.get? fields "env" = some (.string "prod") := by
  obtain ⟨hsuccess, -, hnormal⟩ := normalization_is_canonical tags
  obtain ⟨w, hw⟩ := hsuccess.mpr (by
    rintro word ⟨⟩
    exact ⟨.map, by decide, by rintro default ⟨⟩; rfl⟩)
  obtain ⟨-, hform, hagain⟩ := hnormal w hw
  obtain ⟨fields, hfields, hkeys, hget⟩ := hform.merged
    [[("env", .string "dev"), ("team", .string "core")],
      [("zone", .string "a"), ("env", .string "prod")]] rfl (by simp) (by simp [Fields.keys])
  exact ⟨w, hw, hagain, hform.type.trans (by rfl), fields, hfields, hkeys.trans (by decide),
    (hget "env").trans rfl⟩

end Example

end Variable

end TemplatedConfig
