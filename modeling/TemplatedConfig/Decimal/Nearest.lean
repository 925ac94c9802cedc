/-
# Reading a decimal

A decimal text stands for the double nearest to it; of two doubles at the same distance the
one with the even mantissa is taken.  `nearest` computes this in exact arithmetic on natural
numbers, and `read?` is the grammar of decimal texts: an optional sign, digits with an optional
point among or around them, and an optional exponent, or one of the words for the infinities
and for the value that is no number.
-/
import TemplatedConfig.Decimal.Binary

namespace TemplatedConfig.Decimal

/-- The quotient rounded to the nearest natural number, a half going to the even neighbour. -/
def roundDiv (numerator denominator : Nat) : Nat :=
  let floor := numerator / denominator
  let twice := 2 * (numerator % denominator)
  if twice < denominator then floor
  else if denominator < twice then floor + 1
  else if floor % 2 = 0 then floor else floor + 1

/-- `numerator / denominator / 2 ^ exponent` as one fraction of natural numbers. -/
def scaled (numerator denominator : Nat) (exponent : Int) : Nat × Nat :=
  (numerator * Nat.pow 2 (-exponent).toNat, denominator * Nat.pow 2 exponent.toNat)

/-- The double nearest to a positive fraction.  The exponent is chosen so that the quotient
has 53 binary digits, or fewer where the format's least exponent is reached. -/
def nearestFraction (numerator denominator : Nat) : Magnitude :=
  let guess : Int := (numerator.log2 : Int) - (denominator.log2 : Int) - 53
  let (n, d) := scaled numerator denominator guess
  let exponent := max leastExponent (if n / d < Nat.pow 2 53 then guess else guess + 1)
  let (n, d) := scaled numerator denominator exponent
  ⟨roundDiv n d, exponent⟩

/-- The double nearest to `digits * 10 ^ exponent`.  Exponents that no double can reach are
settled before any power is taken. -/
def nearest (digits : Nat) (exponent : Int) : Float :=
  if digits = 0 then 0
  else
    let length : Int := (Nat.toDigits 10 digits).length
    if 310 < exponent + length then Magnitude.toFloat ⟨Nat.pow 2 53, 971⟩
    else if exponent + length < -330 then 0
    else
      (nearestFraction (digits * Nat.pow 10 exponent.toNat)
        (Nat.pow 10 (-exponent).toNat)).toFloat

/-- The number that a run of decimal digits stands for. -/
def digitsValue (digits : List Char) : Nat :=
  digits.foldl (fun n c => 10 * n + (c.toNat - '0'.toNat)) 0

/-- An exponent part, of which nothing may follow. -/
def readExponent? : List Char → Option Int
  | [] => some 0
  | mark :: rest =>
    if mark = 'e' ∨ mark = 'E' then
      let (negative, digits) := match rest with
        | '-' :: r => (true, r)
        | '+' :: r => (false, r)
        | r => (false, r)
      if digits ≠ [] ∧ digits.all Char.isDigit then
        let n : Int := digitsValue digits
        some (if negative then -n else n)
      else none
    else none

/-- An unsigned decimal: digits, point, digits, exponent, with a digit on at least one side of
the point. -/
def readUnsigned? (text : List Char) : Option Float :=
  let whole := text.takeWhile Char.isDigit
  let rest := text.dropWhile Char.isDigit
  let (fraction, rest) := match rest with
    | '.' :: r => (r.takeWhile Char.isDigit, r.dropWhile Char.isDigit)
    | r => ([], r)
  if whole = [] ∧ fraction = [] then none
  else
    (readExponent? rest).map fun exponent =>
      nearest (digitsValue (whole ++ fraction)) (exponent - fraction.length)

/-- The words that stand for values without digits, in any case of letters. -/
def readWord? (text : List Char) : Option Float :=
  let word := String.ofList (text.map Char.toLower)
  if word = "inf" ∨ word = "infinity" then some (1 / 0)
  else if word = "nan" then some (0 / 0)
  else none

/-- The value of a decimal text, if it is one. -/
def read? (text : String) : Option Float :=
  let (negative, rest) := match text.toList with
    | '-' :: r => (true, r)
    | '+' :: r => (false, r)
    | r => (false, r)
  let unsigned := match readWord? rest with
    | some x => some x
    | none => readUnsigned? rest
  unsigned.map fun x => if negative then -x else x

end TemplatedConfig.Decimal
