/-
# What a plain scalar says

A scalar without quotes and without a tag is read by its text: as a null, a truth value, an
integer in one of four bases, a double, or otherwise as a string.  Digits after a leading zero
are a string.  `classify` is used by the reader, and by the writer to see which strings need
quotes.
-/
import TemplatedConfig.Decimal.Nearest

namespace TemplatedConfig.Yaml

/-- What the text of a plain scalar is. -/
inductive PlainKind where
  | null
  | bool (value : Bool)
  /-- Between `-2 ^ 127` and `2 ^ 128`. -/
  | whole (value : Int)
  | double (value : Float)
  | string

/-- The value of a digit in bases up to sixteen. -/
def digit? (c : Char) : Option Nat :=
  if c.isDigit then some (c.toNat - '0'.toNat)
  else if 'a' ≤ c ∧ c ≤ 'f' then some (c.toNat - 'a'.toNat + 10)
  else if 'A' ≤ c ∧ c ≤ 'F' then some (c.toNat - 'A'.toNat + 10)
  else none

/-- The number that digits stand for in a base. -/
def digitsIn? (base : Nat) (digits : List Char) : Option Nat :=
  if digits = [] then none
  else
    digits.foldlM (fun n c =>
      (digit? c).bind fun d => if d < base then some (base * n + d) else none) 0

/-- Decimal digits after a leading zero. -/
def isPadded : List Char → Bool
  | '0' :: d :: rest => (d :: rest).all Char.isDigit
  | _ => false

/-- A number without sign, in the base that its lead gives. -/
def magnitude? : List Char → Option Nat
  | '0' :: 'x' :: digits => digitsIn? 16 digits
  | '0' :: 'o' :: digits => digitsIn? 8 digits
  | '0' :: 'b' :: digits => digitsIn? 2 digits
  | digits => if isPadded digits then none else digitsIn? 10 digits

/-- The sign at the start of a text, and the rest. -/
def splitSign : List Char → Option Char × List Char
  | '+' :: rest => (some '+', rest)
  | '-' :: rest => (some '-', rest)
  | rest => (none, rest)

/-- An integer of at most 128 bits. -/
def whole? (text : List Char) : Option Int :=
  match splitSign text with
  | (some '-', rest) =>
    (magnitude? rest).bind fun n => if n ≤ Nat.pow 2 127 then some (-n) else none
  | (_, rest) => (magnitude? rest).bind fun n => if n < Nat.pow 2 128 then some n else none

/-- A decimal number that a double can come near to. -/
def finite? (text : List Char) : Option Float :=
  (Decimal.read? (String.ofList text)).filter Decimal.isFinite

/-- A double. -/
def double? (text : List Char) : Option Float :=
  let word := String.ofList text
  if word = ".nan" ∨ word = ".NaN" ∨ word = ".NAN" then some (0 / 0)
  else
    let (sign, rest) := splitSign text
    let word := String.ofList rest
    if word = ".inf" ∨ word = ".Inf" ∨ word = ".INF" then
      some (if sign = some '-' then -1 / 0 else 1 / 0)
    else if (splitSign rest).1.isSome then none
    else finite? text

/-- Whether a text stands for a null. -/
def isNullWord (text : String) : Bool :=
  text = "null" || text = "Null" || text = "NULL" || text = "~"

/-- The truth value that a text stands for. -/
def boolWord? (text : String) : Option Bool :=
  if text = "true" ∨ text = "True" ∨ text = "TRUE" then some true
  else if text = "false" ∨ text = "False" ∨ text = "FALSE" then some false
  else none

/-- A double, or else a string. -/
def classifyDouble (text : List Char) : PlainKind :=
  if isPadded (splitSign text).2 then .string
  else
    match double? text with
    | some x => .double x
    | none => .string

/-- What the text of a plain scalar is. -/
def classify (text : String) : PlainKind :=
  if text = "" ∨ isNullWord text then .null
  else
    match boolWord? text with
    | some b => .bool b
    | none =>
      match whole? text.toList with
      | some n => .whole n
      | none => classifyDouble text.toList

end TemplatedConfig.Yaml
