/-
# Numbers in JSON

An integer that fits into 64 bits is an integer, and everything else is a double, computed in
two roundings: the digits are gathered into a significand below `2 ^ 64`, further digits being
dropped, and the significand is then multiplied or divided by a power of ten.  A number too
large for a double is no number, while one too small is zero.  Minus zero is a double, since
no integer has that sign.
-/
import TemplatedConfig.Document.Basic
import TemplatedConfig.Decimal.Nearest

namespace TemplatedConfig.Json

/-- The bound of a significand. -/
def significandBound : Nat := Nat.pow 2 64

/-- The value of a digit. -/
def digitValue (c : Char) : Nat := c.toNat - '0'.toNat

/-- Appends digits to a significand as long as it stays below the bound, counting them. -/
def gather (significand count : Nat) : List Char → Nat × Nat × List Char
  | [] => (significand, count, [])
  | c :: rest =>
    if c.isDigit ∧ 10 * significand + digitValue c < significandBound then
      gather (10 * significand + digitValue c) (count + 1) rest
    else (significand, count, c :: rest)

/-- Whether a digit comes next. -/
def digitNext : List Char → Bool
  | c :: _ => c.isDigit
  | [] => false

/-- A power of ten as a double. -/
def powerOfTen (exponent : Nat) : Float := Decimal.nearest 1 exponent

/-- Divides by a power of ten, in steps of the largest power that a double has.  Three steps
bring any significand down to zero. -/
def divideByPower : Nat → Float → Nat → Float
  | 0, x, _ => x
  | steps + 1, x, exponent =>
    if exponent ≤ 308 then x / powerOfTen exponent
    else divideByPower steps (x / powerOfTen 308) (exponent - 308)

/-- The double of a significand and an exponent of ten, unless it is too large. -/
def scaled? (significand : Nat) (exponent : Int) : Option Float :=
  let x := Decimal.nearest significand 0
  if exponent < 0 then some (divideByPower 4 x exponent.natAbs)
  else if significand = 0 then some x
  else if exponent ≤ 308 then
    let y := x * powerOfTen exponent.toNat
    if Decimal.isFinite y then some y else none
  else none

/-- A number that is written with a point, an exponent or too many digits. -/
def double? (negative : Bool) (significand : Nat) (exponent : Int) : Option Document :=
  (scaled? significand exponent).map fun x => .float (if negative then -x else x)

/-- The exponent part, if one follows. -/
def exponentPart? (negative : Bool) (significand : Nat) (exponent : Int) (text : List Char) :
    Option (Document × List Char) :=
  match text with
  | mark :: rest =>
    if mark = 'e' ∨ mark = 'E' then
      let (down, digits) : Bool × List Char := match rest with
        | '+' :: r => (false, r)
        | '-' :: r => (true, r)
        | r => (false, r)
      if digitNext digits then
        let shift : Int := Decimal.digitsValue (digits.takeWhile Char.isDigit)
        (double? negative significand (if down then exponent - shift else exponent + shift)).map
          fun d => (d, digits.dropWhile Char.isDigit)
      else none
    else (double? negative significand exponent).map fun d => (d, text)
  | [] => (double? negative significand exponent).map fun d => (d, [])

/-- The digits after the point. -/
def fractionPart? (negative : Bool) (significand : Nat) (exponent : Int) (text : List Char) :
    Option (Document × List Char) :=
  if digitNext text then
    let (significand, count, rest) := gather significand 0 text
    exponentPart? negative significand (exponent - count) (rest.dropWhile Char.isDigit)
  else none

/-- A number without point and exponent. -/
def whole (negative : Bool) (significand : Nat) : Document :=
  if negative then
    if significand = 0 ∨ Nat.pow 2 63 < significand then .float (-Decimal.nearest significand 0)
    else .integer (Int64.ofInt (-significand))
  else if significand < Nat.pow 2 63 then .integer (Int64.ofNat significand)
  else .float (Decimal.nearest significand 0)

/-- What follows the whole digits; `dropped` of them found no place in the significand. -/
def afterWhole? (negative : Bool) (significand dropped : Nat) (text : List Char) :
    Option (Document × List Char) :=
  match text with
  | '.' :: rest => fractionPart? negative significand dropped rest
  | 'e' :: _ | 'E' :: _ => exponentPart? negative significand dropped text
  | _ =>
    if dropped = 0 then some (whole negative significand, text)
    else (double? negative significand dropped).map fun d => (d, text)

/-- A number after its sign.  A zero stands alone before the point. -/
def number? (negative : Bool) (text : List Char) : Option (Document × List Char) :=
  match text with
  | '0' :: rest => if digitNext rest then none else afterWhole? negative 0 0 rest
  | text =>
    if digitNext text then
      let (significand, _, rest) := gather 0 0 text
      afterWhole? negative significand (rest.takeWhile Char.isDigit).length
        (rest.dropWhile Char.isDigit)
    else none

end TemplatedConfig.Json
