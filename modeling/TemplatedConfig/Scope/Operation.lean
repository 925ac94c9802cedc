/-
# Operators and indexes

What the operators do to values.  Two integers are computed exactly and the result is refused
if it does not fit; if either operand is a float, both are taken as floats.  An index picks an
item of a list by its position or an entry of a map by its key.
-/
import TemplatedConfig.Fault
import TemplatedConfig.Template.Basic
import TemplatedConfig.Value.Basic

namespace TemplatedConfig

namespace Operation

/-- The exact result of an operator on integers.  Division goes toward zero, and the remainder
has the sign of the dividend. -/
def exact : Operator → Int → Int → Int
  | .add, l, r => l + r
  | .sub, l, r => l - r
  | .mul, l, r => l * r
  | .div, l, r => l.tdiv r
  | .mod, l, r => l.tmod r

/-- The integer that has to fit for an operator to have a result.  A remainder comes with its
quotient, so it is the quotient that has to fit. -/
def critical : Operator → Int → Int → Int
  | .mod, l, r => l.tdiv r
  | op, l, r => exact op l r

/-- Whether an operator divides by its right operand. -/
def divides : Operator → Bool
  | .div | .mod => true
  | _ => false

/-- An operator on two integers. -/
def onIntegers (op : Operator) (l r : Int64) : Except Fault Value :=
  if divides op ∧ r = 0 then .error (Fault.of .divisionByZero)
  else if Value.Fits (critical op l.toInt r.toInt) then
    .ok (.integer (Int64.ofInt (exact op l.toInt r.toInt)))
  else .error (Fault.of .integerOverflow)

/-- An operator on two floats. -/
def onFloats (op : Operator) (l r : Float) : Except Fault Value :=
  match op with
  | .add => .ok (.float (l + r))
  | .sub => .ok (.float (l - r))
  | .mul => .ok (.float (l * r))
  | .div => if r == 0.0 then .error (Fault.of .divisionByZero) else .ok (.float (l / r))
  | .mod => .error (Fault.of .moduloOfFloats)

/-- An operator on two values. -/
def arithmetic (op : Operator) (left right : Value) : Except Fault Value :=
  match left, right with
  | .integer l, .integer r => onIntegers op l r
  | .integer l, .float r => onFloats op l.toFloat r
  | .float l, .integer r => onFloats op l r.toFloat
  | .float l, .float r => onFloats op l r
  | _, _ => .error (Fault.of (.notNumeric left.kind right.kind))

/-- A minus sign before a value. -/
def negate : Value → Except Fault Value
  | .integer n =>
    if Value.Fits (-n.toInt) then .ok (.integer (Int64.ofInt (-n.toInt)))
    else .error (Fault.of .integerOverflow)
  | .float x => .ok (.float (-x))
  | other => .error (Fault.of (.notNegatable other.kind))

/-- The item at a position, counted from zero; negative positions have none. -/
def itemAt? (items : List Value) (position : Int64) : Option Value :=
  if 0 ≤ position.toInt then items[position.toInt.toNat]? else none

/-- The part of a value that an index picks; `expr` is the text of the indexed expression. -/
def index (expr : String) (target key : Value) : Except Fault Value :=
  match target, key with
  | .sequence items, .integer n =>
    match itemAt? items n with
    | some v => .ok v
    | none => .error (Fault.of (.indexOutOfRange n expr items.length))
  | .sequence _, other => .error (Fault.of (.listIndex expr other.kind))
  | .mapping fields, .string k =>
    match Fields.get? fields k with
    | some v => .ok v
    | none => .error (Fault.of (.missingKey k expr))
  | .mapping _, other => .error (Fault.of (.mapIndex expr other.kind))
  | other, _ => .error (Fault.of (.notIndexable expr other.kind))

/-- The text of a value between other text; `expr` is the expression it came from. -/
def render (expr : String) (v : Value) : Except Fault String :=
  match v with
  | .string s => .ok s
  | .integer n => .ok (Value.integerText n)
  | .float x => .ok (Decimal.plain x)
  | .bool b => .ok (Value.boolText b)
  | other => .error (Fault.of (.notEmbeddable expr other.kind))

end Operation

end TemplatedConfig
