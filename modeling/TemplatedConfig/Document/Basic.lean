/-
# Documents

What a text of some format says before repeated keys are settled: a tree whose mappings list
their entries in the order of the text, repeats included.  As a value, a repeated key keeps the
first place and the last content (`Document.toValue`); whether the repeats are to be tolerated
is decided by whoever reads the document.
-/
import TemplatedConfig.Value.Basic

namespace TemplatedConfig

/-- The content of a text. -/
inductive Document where
  | null
  | bool (value : Bool)
  | integer (value : Int64)
  | float (value : Float)
  | string (text : String)
  | sequence (items : List Document)
  /-- Keys may be repeated. -/
  | mapping (entries : List (String × Document))

namespace Document

instance : Inhabited Document := ⟨.null⟩

mutual

/-- The value that a document stands for. -/
def toValue : Document → Value
  | null => .null
  | bool b => .bool b
  | integer n => .integer n
  | float x => .float x
  | string s => .string s
  | sequence items => .sequence (itemValues items)
  | mapping entries => .mapping (Fields.ofList (entryValues entries))

/-- The values of the items of a sequence. -/
def itemValues : List Document → List Value
  | [] => []
  | d :: rest => d.toValue :: itemValues rest

/-- The values of the entries of a mapping. -/
def entryValues : List (String × Document) → List (String × Value)
  | [] => []
  | (key, d) :: rest => (key, d.toValue) :: entryValues rest

end

mutual

/-- **In the value of a document every repeated key is settled.** -/
theorem keysDistinct_toValue : ∀ d : Document, d.toValue.KeysDistinct
  | null => trivial
  | bool _ => trivial
  | integer _ => trivial
  | float _ => trivial
  | string _ => trivial
  | sequence items => Value.itemsKeysDistinct_iff.mpr (keysDistinct_itemValues items)
  | mapping entries =>
    ⟨Fields.nodup_keys_ofList _, Value.fieldsKeysDistinct_iff.mpr fun _ he =>
      keysDistinct_entryValues entries _ (Fields.mem_ofList he)⟩

theorem keysDistinct_itemValues : ∀ items : List Document, ∀ v ∈ itemValues items, v.KeysDistinct
  | [], _, h => nomatch h
  | d :: rest, v, h => by
    rcases List.mem_cons.mp h with rfl | h
    · exact keysDistinct_toValue d
    · exact keysDistinct_itemValues rest v h

theorem keysDistinct_entryValues : ∀ entries : List (String × Document),
    ∀ e ∈ entryValues entries, e.2.KeysDistinct
  | [], _, h => nomatch h
  | (_, d) :: rest, e, h => by
    rcases List.mem_cons.mp h with rfl | h
    · exact keysDistinct_toValue d
    · exact keysDistinct_entryValues rest e h

end

/-- The entries of a mapping; anything else has none. -/
def entries : Document → List (String × Document)
  | mapping entries => entries
  | _ => []

end Document

end TemplatedConfig
