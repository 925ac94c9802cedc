/-
# Writing a double with the fewest digits

The decimals that read back as a given double form an interval around it.  `shortest` finds
the coarsest decimal grid with a point in that interval: grids of one digit, of two digits, and
so on are tried in turn, and on each grid only the two neighbours of the double can qualify.
Of two that do, the nearer is taken.

How the digits are then laid out (where positional notation ends, whether a whole number keeps
its point, how an exponent is marked) and where an exact tie goes is the business of each
format, gathered in one record, `Style`.
-/
import TemplatedConfig.Decimal.Binary

namespace TemplatedConfig.Decimal

/-- Where the decimal goes when both neighbours on a grid are equally near. -/
inductive Tie where
  | up
  | even
  deriving DecidableEq

/-- The interval of reals that round to a double, and the double itself, in units of
`2 ^ (exponent - 2)`.  Below a power of two the numbers lie twice as dense. -/
structure Interval where
  low : Nat
  centre : Nat
  high : Nat
  /-- The ends round to the double exactly if its mantissa is even. -/
  closed : Bool

/-- The interval of a positive double. -/
def Magnitude.interval (v : Magnitude) : Interval where
  low := if v.mantissa = Nat.pow 2 52 ∧ leastExponent < v.exponent then 4 * v.mantissa - 1
    else 4 * v.mantissa - 2
  centre := 4 * v.mantissa
  high := 4 * v.mantissa + 2
  closed := v.mantissa % 2 = 0

/-- The multiple of `10 ^ grid` that stands for the double on that grid, if one lies in its
interval. -/
def gridPoint? (tie : Tie) (v : Magnitude) (grid : Int) : Option Nat :=
  let i := v.interval
  let unit := v.exponent - 2
  let up := Nat.pow 2 unit.toNat * Nat.pow 10 (-grid).toNat
  let down := Nat.pow 2 (-unit).toNat * Nat.pow 10 grid.toNat
  let inside (t : Nat) : Bool :=
    if i.closed then i.low * up ≤ t * down ∧ t * down ≤ i.high * up
    else i.low * up < t * down ∧ t * down < i.high * up
  let below := i.centre * up / down
  let gapBelow := i.centre * up - below * down
  let gapAbove := (below + 1) * down - i.centre * up
  match inside below, inside (below + 1) with
  | false, false => none
  | true, false => some below
  | false, true => some (below + 1)
  | true, true =>
    if gapBelow < gapAbove then some below
    else if gapAbove < gapBelow then some (below + 1)
    else match tie with
      | .up => some (below + 1)
      | .even => if below % 2 = 0 then some below else some (below + 1)

/-- The exponent of the leading decimal digit of a positive double.  The binary length times
`log10 2` is off by less than one, and two comparisons settle it. -/
def Magnitude.decimalExponent (v : Magnitude) : Int :=
  let guess := ((v.mantissa.log2 : Int) + v.exponent) * 1233 / 4096
  let reaches (k : Int) : Bool :=
    Nat.pow 10 k.toNat * Nat.pow 2 (-v.exponent).toNat
      ≤ v.mantissa * Nat.pow 2 v.exponent.toNat * Nat.pow 10 (-k).toNat
  if reaches (guess + 1) then guess + 1 else if reaches guess then guess else guess - 1

/-- The shortest decimal of a positive double: a number without trailing zeros and the
exponent of its last digit.  Seventeen digits are always enough. -/
def shortest (tie : Tie) (v : Magnitude) : Nat × Int :=
  let top := v.decimalExponent + 1
  let found := (List.range 19).findSome? fun (i : Nat) =>
    (gridPoint? tie v (top - i)).map fun digits => (digits, top - (i : Int))
  found.getD (0, 0)

/-- How a format lays out the digits of a finite double. -/
structure Style where
  tie : Tie
  /-- The exponents of the leading digit for which no exponent is written. -/
  positional : Int → Bool
  /-- A whole number keeps a point and a zero. -/
  keepsPoint : Bool
  /-- A positive exponent is written with its sign. -/
  signsExponent : Bool

/-- The layout for messages and for text built from parts: never an exponent and no point in a
whole number. -/
def plainStyle : Style where
  tie := .up
  positional := fun _ => true
  keepsPoint := false
  signsExponent := false

/-- Digits with the point put in, `exponent` being the exponent of the leading digit. -/
def positionalText (style : Style) (digits : List Char) (exponent : Int) : List Char :=
  if exponent < 0 then
    ['0', '.'] ++ List.replicate (-exponent - 1).toNat '0' ++ digits
  else
    let whole := exponent.toNat + 1
    let shown := digits.take whole ++ List.replicate (whole - digits.length) '0'
    if whole < digits.length then shown ++ '.' :: digits.drop whole
    else if style.keepsPoint then shown ++ ['.', '0']
    else shown

/-- One digit before the point, the others after it, and the exponent. -/
def exponentText (style : Style) (digits : List Char) (exponent : Int) : List Char :=
  let lead := match digits with
    | [] => []
    | [d] => [d]
    | d :: more => d :: '.' :: more
  let sign := if exponent < 0 then ['-'] else if style.signsExponent then ['+'] else []
  lead ++ 'e' :: sign ++ Nat.toDigits 10 exponent.natAbs

/-- A finite double in a style. -/
def finiteText (style : Style) (negative : Bool) (v : Magnitude) : List Char :=
  let (digits, last) : List Char × Int :=
    if v.mantissa = 0 then (['0'], 0)
    else
      let (n, e) := shortest style.tie v
      (Nat.toDigits 10 n, e)
  let exponent := last + (digits.length - 1 : Nat)
  let body :=
    if style.positional exponent then positionalText style digits exponent
    else exponentText style digits exponent
  if negative then '-' :: body else body

/-- The text of a double in messages and in text built from parts. -/
def plain (x : Float) : String :=
  match parts x with
  | .finite negative v => String.ofList (finiteText plainStyle negative v)
  | .infinite negative => if negative then "-inf" else "inf"
  | .nan => "NaN"

end TemplatedConfig.Decimal
