/-
# Bindings

Variables get their values from bindings.  A value may be missing for the time being: such a
variable is bound to a mark, a string that no configuration uses, and every result that
depends on it is unknown (`Outcome.unknown`).  The mark is also what an unknown result is
written as, alone or inside a list or a map.
-/
import TemplatedConfig.Value.Basic

namespace TemplatedConfig

/-- The string that stands for a value not known yet. -/
def unknownMark : String := "74D93920-ED26-11E3-AC10-0800200C9A66"

namespace Value

/-- The value that is the mark itself. -/
def unknown : Value := .string unknownMark

/-- Whether a value is the mark. -/
def isUnknown : Value → Bool
  | string s => s = unknownMark
  | _ => false

mutual

/-- Whether the mark stands anywhere in a value. -/
def hasUnknown : Value → Bool
  | string s => s = unknownMark
  | sequence items => itemsHaveUnknown items
  | mapping fields => fieldsHaveUnknown fields
  | _ => false

/-- Whether the mark stands in one of the items. -/
def itemsHaveUnknown : List Value → Bool
  | [] => false
  | v :: rest => v.hasUnknown || itemsHaveUnknown rest

/-- Whether the mark stands below one of the keys. -/
def fieldsHaveUnknown : Fields Value → Bool
  | [] => false
  | (_, v) :: rest => v.hasUnknown || fieldsHaveUnknown rest

end

/-- The mark stands in a sequence if it stands in one of the items. -/
theorem hasUnknown_sequence (items : List Value) :
    (sequence items).hasUnknown = items.any hasUnknown := by
  rw [hasUnknown]
  induction items with
  | nil => rfl
  | cons v rest ih => rw [itemsHaveUnknown, List.any_cons, ih]

/-- The mark stands in a mapping if it stands below one of the keys. -/
theorem hasUnknown_mapping (fields : Fields Value) :
    (mapping fields).hasUnknown = fields.any fun e => e.2.hasUnknown := by
  rw [hasUnknown]
  induction fields with
  | nil => rfl
  | cons e rest ih => rw [fieldsHaveUnknown, List.any_cons, ih]

end Value

/-- What an expression evaluates to. -/
inductive Outcome where
  | known (value : Value)
  | unknown

namespace Outcome

/-- The outcome that a value stands for. -/
def ofValue (v : Value) : Outcome := if v.isUnknown then .unknown else .known v

/-- The value that an outcome is written as. -/
def toValue : Outcome → Value
  | known v => v
  | unknown => Value.unknown

end Outcome

/-- The values of variables, in the order in which the variables were first bound. -/
structure Bindings where
  values : Fields Value := []

namespace Bindings

/-- No variable is bound. -/
def empty : Bindings := {}

/-- Binds a variable, in place of an earlier binding. -/
def insert (b : Bindings) (name : String) (value : Value) : Bindings :=
  { values := b.values.insert name value }

/-- Binds a variable whose value is not known yet. -/
def markUnknown (b : Bindings) (name : String) : Bindings := b.insert name Value.unknown

/-- Binds several variables one after another. -/
def insertAll (b : Bindings) (entries : List (String × Value)) : Bindings :=
  { values := b.values.insertAll entries }

/-- The bindings of a list of entries. -/
def ofList (entries : List (String × Value)) : Bindings := empty.insertAll entries

/-- The value of a variable. -/
def get? (b : Bindings) (name : String) : Option Value := b.values.get? name

/-- Whether a variable is bound. -/
def contains (b : Bindings) (name : String) : Bool := (b.get? name).isSome

/-- Whether a variable is bound to the mark. -/
def isUnknown (b : Bindings) (name : String) : Bool :=
  match b.get? name with
  | some v => v.isUnknown
  | none => false

/-- The number of bound variables. -/
def size (b : Bindings) : Nat := b.values.length

end Bindings

end TemplatedConfig
