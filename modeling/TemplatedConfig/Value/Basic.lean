/-
# Configuration values

A document decodes into a closed tree of scalars, sequences and mappings with string keys.
Strings may carry templates that are resolved later.  The integers are those of 64 bits, the
floats are doubles, and mappings keep the key order of the document.

In messages, scalars print as themselves, strings without quotes, and collections in brackets with
a comma and a space between the parts.

A function declares what it takes and what it gives in types of values (`ArgumentType`).  The one
widening is from an integer to a float: a float parameter takes an integer and the function sees
the double.
-/
import TemplatedConfig.Decimal.Shortest
import TemplatedConfig.Fields

namespace TemplatedConfig

/-! ## 1. Trees -/

/-- A configuration value. -/
inductive Value where
  | null
  | bool (value : Bool)
  | integer (value : Int64)
  | float (value : Float)
  /-- May hold a template until it is interpolated. -/
  | string (text : String)
  | sequence (items : List Value)
  | mapping (fields : List (String × Value))

instance : Inhabited Value := ⟨.null⟩

/-- The shapes of a value. -/
inductive Kind where
  | null | bool | integer | float | string | sequence | mapping
  deriving DecidableEq

/-- The word for a shape in messages. -/
def Kind.name : Kind → String
  | .null => "null"
  | .bool => "bool"
  | .integer => "int"
  | .float => "float"
  | .string => "string"
  | .sequence => "list"
  | .mapping => "map"

namespace Value

/-- Whether a whole number is one of the integers that a value can be. -/
def Fits (n : Int) : Prop := Int64.minValue.toInt ≤ n ∧ n ≤ Int64.maxValue.toInt

instance (n : Int) : Decidable (Fits n) := inferInstanceAs (Decidable (_ ∧ _))

/-- The shape of a value. -/
def kind : Value → Kind
  | null => .null
  | bool _ => .bool
  | integer _ => .integer
  | float _ => .float
  | string _ => .string
  | sequence _ => .sequence
  | mapping _ => .mapping

/-- Neither a sequence nor a mapping. -/
def isScalar (v : Value) : Bool := v.kind != .sequence && v.kind != .mapping

/-- The integer, of an integer. -/
def integer? : Value → Option Int64
  | integer n => some n
  | _ => none

/-- The number as a double; an integer is rounded to the nearest one. -/
def number? : Value → Option Float
  | float x => some x
  | integer n => some n.toFloat
  | _ => none

/-- The text, of a string. -/
def text? : Value → Option String
  | string s => some s
  | _ => none

/-- The items, of a sequence. -/
def items? : Value → Option (List Value)
  | sequence items => some items
  | _ => none

/-- The fields, of a mapping. -/
def fields? : Value → Option (Fields Value)
  | mapping fields => some fields
  | _ => none

mutual

/-- Equality of content.  Numbers compare as numbers, so a value that holds no number is not
even the same as itself, and the order of the keys of a mapping does not count. -/
def same : Value → Value → Bool
  | null, null => true
  | bool a, bool b => a == b
  | integer a, integer b => a == b
  | float a, float b => a == b
  | string a, string b => a == b
  | sequence a, sequence b => sameItems a b
  | mapping a, mapping b => a.length == b.length && sameFields a b
  | _, _ => false

/-- The items are the same one by one. -/
def sameItems : List Value → List Value → Bool
  | [], [] => true
  | a :: as, b :: bs => same a b && sameItems as bs
  | _, _ => false

/-- Every field is present in the other mapping with the same content. -/
def sameFields : Fields Value → Fields Value → Bool
  | [], _ => true
  | (k, v) :: rest, other =>
    (match Fields.get? other k with
      | some w => same v w
      | none => false) && sameFields rest other

end

mutual

/-- No mapping in the tree repeats a key. -/
def KeysDistinct : Value → Prop
  | sequence items => ItemsKeysDistinct items
  | mapping fields => (Fields.keys fields).Nodup ∧ FieldsKeysDistinct fields
  | _ => True

/-- No mapping in any of the items repeats a key. -/
def ItemsKeysDistinct : List Value → Prop
  | [] => True
  | v :: rest => v.KeysDistinct ∧ ItemsKeysDistinct rest

/-- No mapping below any of the fields repeats a key. -/
def FieldsKeysDistinct : Fields Value → Prop
  | [] => True
  | (_, v) :: rest => v.KeysDistinct ∧ FieldsKeysDistinct rest

end

theorem itemsKeysDistinct_iff {items : List Value} :
    ItemsKeysDistinct items ↔ ∀ v ∈ items, v.KeysDistinct := by
  induction items with
  | nil => simp [ItemsKeysDistinct]
  | cons v rest ih => rw [ItemsKeysDistinct, ih, List.forall_mem_cons]

theorem fieldsKeysDistinct_iff {fields : Fields Value} :
    FieldsKeysDistinct fields ↔ ∀ e ∈ fields, e.2.KeysDistinct := by
  induction fields with
  | nil => simp [FieldsKeysDistinct]
  | cons e rest ih => rw [FieldsKeysDistinct, ih, List.forall_mem_cons]

mutual

/-- **Induction over a tree**, with the members of a sequence or of a mapping at hand. -/
@[elab_as_elim]
theorem inductionOn {P : Value → Prop} (v : Value) (scalar : ∀ v, v.isScalar = true → P v)
    (sequence : ∀ items, (∀ v ∈ items, P v) → P (.sequence items))
    (mapping : ∀ fields, (∀ e ∈ fields, P e.2) → P (.mapping fields)) : P v :=
  match v with
  | .null => scalar _ rfl
  | .bool _ => scalar _ rfl
  | .integer _ => scalar _ rfl
  | .float _ => scalar _ rfl
  | .string _ => scalar _ rfl
  | .sequence items => sequence items (inductionOnItems items scalar sequence mapping)
  | .mapping fields => mapping fields (inductionOnFields fields scalar sequence mapping)

theorem inductionOnItems {P : Value → Prop} (items : List Value)
    (scalar : ∀ v, v.isScalar = true → P v)
    (sequence : ∀ items, (∀ v ∈ items, P v) → P (.sequence items))
    (mapping : ∀ fields, (∀ e ∈ fields, P e.2) → P (.mapping fields)) : ∀ v ∈ items, P v :=
  match items with
  | [] => fun _ h => nomatch h
  | first :: rest => List.forall_mem_cons.mpr
      ⟨inductionOn first scalar sequence mapping,
        inductionOnItems rest scalar sequence mapping⟩

theorem inductionOnFields {P : Value → Prop} (fields : List (String × Value))
    (scalar : ∀ v, v.isScalar = true → P v)
    (sequence : ∀ items, (∀ v ∈ items, P v) → P (.sequence items))
    (mapping : ∀ fields, (∀ e ∈ fields, P e.2) → P (.mapping fields)) : ∀ e ∈ fields, P e.2 :=
  match fields with
  | [] => fun _ h => nomatch h
  | (_, first) :: rest => List.forall_mem_cons.mpr
      ⟨inductionOn first scalar sequence mapping,
        inductionOnFields rest scalar sequence mapping⟩

end

/-! ## 2. The text of a value -/

/-- The decimal digits of an integer, with a sign if it is negative. -/
def integerText (n : Int64) : String := toString n.toInt

/-- The word for a truth value. -/
def boolText (b : Bool) : String := if b then "true" else "false"

mutual

/-- The text of a value. -/
def print : Value → String
  | null => "null"
  | bool b => boolText b
  | integer n => integerText n
  | float x => Decimal.plain x
  | string s => s
  | sequence items => "[" ++ ", ".intercalate (printItems items) ++ "]"
  | mapping fields => "\x7b" ++ ", ".intercalate (printFields fields) ++ "\x7d"

/-- The texts of the items of a sequence. -/
def printItems : List Value → List String
  | [] => []
  | v :: rest => v.print :: printItems rest

/-- The texts of the fields of a mapping. -/
def printFields : Fields Value → List String
  | [] => []
  | (k, v) :: rest => (k ++ ": " ++ v.print) :: printFields rest

end

end Value

/-! ## 3. Types of arguments and results -/

/-- The type of a parameter or of a result. -/
inductive ArgumentType where
  | string | integer | float | bool | list | map | any
  deriving DecidableEq

namespace ArgumentType

/-- The word for a type in messages. -/
def name : ArgumentType → String
  | string => "string"
  | integer => "int"
  | float => "float"
  | bool => "bool"
  | list => "list"
  | map => "map"
  | any => "any"

/-- Whether a value may be passed for the type. -/
def accepts : ArgumentType → Value → Bool
  | string, .string _ => true
  | integer, .integer _ => true
  | float, .float _ => true
  | float, .integer _ => true
  | bool, .bool _ => true
  | list, .sequence _ => true
  | map, .mapping _ => true
  | any, _ => true
  | _, _ => false

/-- The value as the function sees it. -/
def widen : ArgumentType → Value → Value
  | float, .integer n => .float n.toFloat
  | _, v => v

end ArgumentType

end TemplatedConfig
