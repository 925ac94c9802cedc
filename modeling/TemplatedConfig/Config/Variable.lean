/-
# Variables

A variable may declare its type.  If it does not, the type is read off the default value, by
decoding it weakly: a scalar counts as a string, a mapping or a nonempty list of mappings as a
map, any other sequence as a list.  Validation checks the default against the declared type
and brings it into the canonical form of its type.
-/
import TemplatedConfig.Fault
import TemplatedConfig.Value.Basic

namespace TemplatedConfig

/-- The type of a variable. -/
inductive VariableType where
  | unknown | string | list | map
  deriving DecidableEq

namespace VariableType

/-- The word for a type. -/
def name : VariableType → String
  | unknown => "unknown"
  | string => "string"
  | list => "list"
  | map => "map"

/-- The words that may be declared, in ascending order. -/
def declarable : List String := ["list", "map", "string"]

/-- The type that a word declares. -/
def ofDeclared? (word : String) : Option VariableType :=
  if word = "string" then some string
  else if word = "list" then some list
  else if word = "map" then some map
  else none

end VariableType

namespace Value

/-- The string that a scalar counts as. -/
def asString? : Value → Option String
  | string s => some s
  | bool b => some (if b then "1" else "0")
  | integer n => some (integerText n)
  | float x => some (Decimal.plain x)
  | _ => none

/-- The fields of all items put together, if all are mappings. -/
def mergedItems? : Fields Value → List Value → Option (Fields Value)
  | merged, [] => some merged
  | merged, .mapping fields :: rest => mergedItems? (merged.insertAll fields) rest
  | _, _ :: _ => none

/-- The map that a value counts as. -/
def asMap? : Value → Option (Fields Value)
  | mapping fields => some fields
  | sequence (first :: rest) => mergedItems? [] (first :: rest)
  | _ => none

/-- The type that a value counts as, and its canonical form. -/
def canonical? (v : Value) : Option (VariableType × Value) :=
  match v.asString? with
  | some s => some (.string, .string s)
  | none =>
    match v.asMap? with
    | some fields => some (.map, .mapping fields)
    | none =>
      match v.items? with
      | some items => some (.list, .sequence items)
      | none => none

/-- The type that a value counts as. -/
def inferredType (v : Value) : VariableType :=
  match v.canonical? with
  | some (type, _) => type
  | none => .unknown

/-- The canonical form of a value; a null has none and stays. -/
def canonical (v : Value) : Value :=
  match v.canonical? with
  | some (_, w) => w
  | none => v

end Value

/-- A declared input of a configuration. -/
structure Variable where
  name : String
  /-- The type as it is written in the declaration. -/
  declared : Option String := none
  default : Option Value := none
  description : Option String := none

namespace Variable

/-- The declared type, or else the type of the default; without either, a string. -/
def type (v : Variable) : VariableType :=
  match v.declared, v.default with
  | some word, _ => (VariableType.ofDeclared? word).getD .unknown
  | none, some default => default.inferredType
  | none, none => .string

/-- Refuses a declared type that does not exist. -/
def checkDeclared (v : Variable) : Except Fault Unit :=
  match v.declared with
  | none => .ok ()
  | some word =>
    match VariableType.ofDeclared? word with
    | some _ => .ok ()
    | none =>
      .error (Fault.of (.invalidVariableType v.name word VariableType.declarable))

/-- Refuses a default that is not of the declared type. -/
def checkDefault (v : Variable) (default : Value) : Except Fault Unit :=
  if v.declared.isSome ∧ v.type ≠ default.inferredType then
    .error (Fault.of (.typeMismatch v.name v.type.name default.inferredType.name))
  else .ok ()

/-- Checks the declaration and brings the default into canonical form. -/
def normalize (v : Variable) : Except Fault Variable := do
  v.checkDeclared
  match v.default with
  | none => return v
  | some default =>
    v.checkDefault default
    return { v with default := some default.canonical }

end Variable

end TemplatedConfig
