import TypedTree.Decimal.Binary64

namespace TypedTree.Decimal

/-! # Shortest decimals

The decimal that stands for a binary number is the one with the fewest digits
among those that read back as the number; of two such decimals the nearer one,
and the larger one if both are equally near.

Coarser powers of ten are tried first. On each grid only the two neighbours of
the number can be the answer, and everything is compared as whole numbers over
one denominator.
-/

/-- The number `digits * 10 ^ exponent`. -/
structure Scaled where
  digits : Nat
  exponent : Int
deriving DecidableEq, Repr

/-- The numbers that read back as `value / unit`: those between `low / unit` and
`high / unit`, with the ends if `closed`. -/
structure Neighbourhood where
  low : Nat
  value : Nat
  high : Nat
  unit : Nat
  closed : Bool

/-- The reals nearer to `mantissa * 2 ^ exponent` than to any other number of the
format. Below a power of two the next number is only half as far away. -/
def Neighbourhood.of (mantissa : Nat) (exponent : Int) : Neighbourhood :=
  let below := if mantissa = Nat.pow 2 52 ∧ exponent ≠ -1074 then 1 else 2
  let factor := Nat.pow 2 (exponent - 2).toNat
  { low := (4 * mantissa - below) * factor
    value := 4 * mantissa * factor
    high := (4 * mantissa + 2) * factor
    unit := Nat.pow 2 (2 - exponent).toNat
    closed := mantissa % 2 == 0 }

/-- The neighbourhood measured in units of `10 ^ exponent`. -/
def Neighbourhood.scale (around : Neighbourhood) (exponent : Int) : Neighbourhood :=
  let factor := Nat.pow 10 (-exponent).toNat
  { around with
    low := around.low * factor
    value := around.value * factor
    high := around.high * factor
    unit := around.unit * Nat.pow 10 exponent.toNat }

def Neighbourhood.contains (around : Neighbourhood) (whole : Nat) : Bool :=
  let point := whole * around.unit
  if around.closed then around.low ≤ point && point ≤ around.high
  else around.low < point && point < around.high

/-- The whole number nearest to the value among its two neighbours, if it reads
back. -/
def Neighbourhood.nearest? (around : Neighbourhood) : Option Nat :=
  let down := around.value / around.unit
  let up := down + 1
  let upIsNearer := around.unit ≤ 2 * (around.value - down * around.unit)
  match around.contains down, around.contains up with
  | true, true => some (if upIsNearer then up else down)
  | true, false => some down
  | false, true => some up
  | false, false => none

/-- The largest power of ten below every number of the format's range. -/
def coarsestExponent : Int := 309

/-- The number of grids that have to be tried before the finest one that any number
of the format needs. -/
def gridCount : Nat := 650

/-- The shortest decimal for `mantissa * 2 ^ exponent`, for a positive mantissa. -/
def shortest (mantissa : Nat) (exponent : Int) : Scaled :=
  let around := Neighbourhood.of mantissa exponent
  let found := (List.range gridCount).findSome? fun (step : Nat) =>
    let grid := coarsestExponent - (step : Int)
    ((around.scale grid).nearest?).map fun digits => Scaled.mk digits grid
  found.getD ⟨0, 0⟩

/-- Writes a decimal without an exponent; whole numbers have no point. -/
def Scaled.positional (number : Scaled) : String :=
  let digits := Nat.toDigits 10 number.digits
  let places := (-number.exponent).toNat
  if number.exponent ≥ 0 then
    String.ofList (digits ++ List.replicate number.exponent.toNat '0')
  else if places < digits.length then
    let whole := digits.length - places
    String.ofList (digits.take whole ++ '.' :: digits.drop whole)
  else
    String.ofList ('0' :: '.' :: List.replicate (places - digits.length) '0' ++ digits)

/-- The text of a number: its shortest decimal in positional notation, the sign kept
on zero. -/
def text (number : Binary64) : String :=
  let sign := if number.negative then "-" else ""
  match number.magnitude with
  | .notANumber => "NaN"
  | .infinite => sign ++ "inf"
  | .finite 0 _ => sign ++ "0"
  | .finite mantissa exponent => sign ++ (shortest mantissa exponent).positional

end TypedTree.Decimal
