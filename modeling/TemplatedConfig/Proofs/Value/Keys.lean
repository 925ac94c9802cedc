/-
# Values that repeat no key

The value of a document repeats no key in any mapping (`Document.keysDistinct_toValue`).  This file
has the converse: a value that repeats no key is the value of a document, which lists its fields as
they are (`toValue_toDocument`).  And what is made of the value of a document, by bringing it into
canonical form or by setting and removing keys, repeats no key either.
-/
import TemplatedConfig.Proofs.Fields
import TemplatedConfig.Proofs.Config.Normalization
import TemplatedConfig.Document.Basic

namespace TemplatedConfig

/-! ## 1. Documents and their values -/

namespace Document

theorem itemValues_eq (items : List Document) : itemValues items = items.map toValue := by
  induction items with
  | nil => rfl
  | cons d rest ih => rw [itemValues, ih, List.map_cons]

/-- The values of the entries of a mapping are those of its members. -/
theorem entryValues_eq (entries : Fields Document) :
    entryValues entries = entries.mapValues toValue := by
  induction entries with
  | nil => rfl
  | cons e rest ih => rw [entryValues, ih]; rfl

/-- Where no key is repeated, no entry of a mapping is lost in its value. -/
theorem toValue_mapping {entries : Fields Document} (h : entries.keys.Nodup) :
    (mapping entries).toValue = .mapping (entries.mapValues toValue) := by
  rw [toValue, entryValues_eq, Fields.ofList_eq_self]
  rwa [Fields.keys_mapValues]

end Document

namespace Value

mutual

/-- The document that says what a value says. -/
def toDocument : Value → Document
  | null => .null
  | bool b => .bool b
  | integer n => .integer n
  | float x => .float x
  | string s => .string s
  | sequence items => .sequence (itemDocuments items)
  | mapping fields => .mapping (fieldDocuments fields)

/-- The documents of the items of a sequence. -/
def itemDocuments : List Value → List Document
  | [] => []
  | v :: rest => v.toDocument :: itemDocuments rest

/-- The documents of the fields of a mapping. -/
def fieldDocuments : List (String × Value) → List (String × Document)
  | [] => []
  | (key, v) :: rest => (key, v.toDocument) :: fieldDocuments rest

end

theorem itemDocuments_eq (items : List Value) : itemDocuments items = items.map toDocument := by
  induction items with
  | nil => rfl
  | cons v rest ih => rw [itemDocuments, ih, List.map_cons]

theorem fieldDocuments_eq (fields : Fields Value) :
    fieldDocuments fields = fields.mapValues toDocument := by
  induction fields with
  | nil => rfl
  | cons e rest ih => rw [fieldDocuments, ih]; rfl

/-- **A value that repeats no key is the value of its document.** -/
theorem toValue_toDocument {v : Value} (h : v.KeysDistinct) : v.toDocument.toValue = v := by
  induction v using inductionOn with
  | scalar v hscalar =>
    cases v with
    | sequence _ => cases hscalar
    | mapping _ => cases hscalar
    | _ => rfl
  | sequence items ih =>
    have hitems := itemsKeysDistinct_iff.mp h
    rw [toDocument, Document.toValue, Document.itemValues_eq, itemDocuments_eq, List.map_map]
    exact congrArg sequence (map_eq_self fun v hv => ih v hv (hitems v hv))
  | mapping fields ih =>
    obtain ⟨hkeys, hfields⟩ := h
    rw [fieldsKeysDistinct_iff] at hfields
    rw [toDocument, fieldDocuments_eq, Document.toValue_mapping (by rwa [Fields.keys_mapValues])]
    rw [Fields.mapValues_mapValues_eq_self fun e he => ih e he (hfields e he)]

/-! ## 2. Values that repeat no key -/

/-- What is found in a mapping repeats no key if the mapping does not. -/
theorem KeysDistinct.get? {fields : Fields Value} (h : (mapping fields).KeysDistinct)
    {key : String} {v : Value} (hget : fields.get? key = some v) : v.KeysDistinct :=
  fieldsKeysDistinct_iff.mp h.2 _ (Fields.mem_of_get? hget)

/-- Setting a key repeats none. -/
theorem KeysDistinct.insert {fields : Fields Value} (h : (mapping fields).KeysDistinct)
    (key : String) {v : Value} (hv : v.KeysDistinct) :
    (mapping (fields.insert key v)).KeysDistinct := by
  refine ⟨Fields.nodup_keys_insert h.1 key v, fieldsKeysDistinct_iff.mpr fun e he => ?_⟩
  rcases Fields.mem_insert he with he | rfl
  · exact fieldsKeysDistinct_iff.mp h.2 e he
  · exact hv

/-- Taking only some of the fields repeats none. -/
theorem KeysDistinct.filter {fields : Fields Value} (h : (mapping fields).KeysDistinct)
    (p : String × Value → Bool) : (mapping (fields.filter p)).KeysDistinct :=
  ⟨h.1.sublist (Fields.keys_filter_sublist fields p), fieldsKeysDistinct_iff.mpr fun e he =>
    fieldsKeysDistinct_iff.mp h.2 e (List.filter_sublist.subset he)⟩

/-- Entries whose values repeat no key stand for a mapping that repeats none, even if they repeat
keys themselves. -/
theorem keysDistinct_ofList {entries : List (String × Value)}
    (h : ∀ e ∈ entries, e.2.KeysDistinct) : (mapping (Fields.ofList entries)).KeysDistinct :=
  ⟨Fields.nodup_keys_ofList entries, fieldsKeysDistinct_iff.mpr fun e he =>
    h e (Fields.mem_ofList he)⟩

/-- Mappings that are put together repeat no key. -/
theorem keysDistinct_mergedItems {items : List Value} {merged fields : Fields Value}
    (hmerged : (mapping merged).KeysDistinct) (hitems : ∀ v ∈ items, v.KeysDistinct)
    (h : mergedItems? merged items = some fields) : (mapping fields).KeysDistinct := by
  induction items generalizing merged with
  | nil =>
    cases h
    exact hmerged
  | cons v rest ih =>
    obtain ⟨hv, hrest⟩ := List.forall_mem_cons.mp hitems
    cases v with
    | mapping more =>
      refine ih ⟨Fields.nodup_keys_insertAll more hmerged.1, ?_⟩ hrest h
      rw [fieldsKeysDistinct_iff]
      intro e he
      rcases Fields.mem_insertAll he with he | he
      · exact fieldsKeysDistinct_iff.mp hmerged.2 e he
      · exact fieldsKeysDistinct_iff.mp hv.2 e he
    | _ => cases h

/-- **A canonical form repeats no key** if the value does not. -/
theorem KeysDistinct.canonical {v : Value} (h : v.KeysDistinct) : v.canonical.KeysDistinct := by
  cases v with
  | sequence items =>
    rw [Value.canonical, canonical?_sequence]
    cases hmap : (sequence items).asMap? with
    | none => exact h
    | some fields =>
      cases items with
      | nil => cases hmap
      | cons first rest =>
        have hnil : (mapping []).KeysDistinct := ⟨List.nodup_nil, trivial⟩
        exact keysDistinct_mergedItems hnil (itemsKeysDistinct_iff.mp h) hmap
  | mapping fields => exact h
  | _ => trivial

end Value

end TemplatedConfig
