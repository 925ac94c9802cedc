/-
# The number behind a double

A finite double is `± m * 2 ^ q` with `m` a natural number below `2 ^ 53`.  This module takes
a double apart into these fields and puts the fields together again, so that reading and
writing decimals is arithmetic on natural numbers.
-/

namespace TemplatedConfig.Decimal

/-- The smallest exponent of a double's unit in the last place. -/
def leastExponent : Int := -1074

/-- A nonnegative finite double, `mantissa * 2 ^ exponent`. -/
structure Magnitude where
  mantissa : Nat
  exponent : Int
  deriving DecidableEq

/-- What a double stands for. -/
inductive Parts where
  | finite (negative : Bool) (magnitude : Magnitude)
  | infinite (negative : Bool)
  | nan
  deriving DecidableEq

/-- Takes a double apart.  A biased exponent of zero marks the numbers without a leading bit,
and the largest one the infinities and the values that are no number. -/
def parts (x : Float) : Parts :=
  let bits := x.toBits.toNat
  let negative := bits / Nat.pow 2 63 = 1
  let biased := bits / Nat.pow 2 52 % Nat.pow 2 11
  let fraction := bits % Nat.pow 2 52
  if biased = 2047 then
    if fraction = 0 then .infinite negative else .nan
  else if biased = 0 then .finite negative ⟨fraction, leastExponent⟩
  else .finite negative ⟨fraction + Nat.pow 2 52, leastExponent + (biased - 1 : Nat)⟩

/-- The bits of a nonnegative double whose mantissa is below `2 ^ 53`, or equal to it: the
carry into the exponent is the right one, because the next number has the next bit pattern.
Beyond the largest exponent stands infinity. -/
def Magnitude.bits (v : Magnitude) : Nat :=
  if v.mantissa < Nat.pow 2 52 then v.mantissa
  else
    min ((v.exponent - leastExponent + 1).toNat * Nat.pow 2 52 + (v.mantissa - Nat.pow 2 52))
      (2047 * Nat.pow 2 52)

/-- The double of a magnitude. -/
def Magnitude.toFloat (v : Magnitude) : Float := Float.ofBits v.bits.toUInt64

/-- Whether the number is finite. -/
def isFinite (x : Float) : Bool :=
  match parts x with
  | .finite .. => true
  | _ => false

end TemplatedConfig.Decimal
