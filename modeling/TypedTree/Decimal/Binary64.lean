namespace TypedTree

/-! # 64-bit binary floating-point numbers

A number is kept as its bit pattern. `negative` and `magnitude` read the pattern as a
sign and a whole multiple of a power of two, which is all that printing needs.
Equality is the numeric one: the two zeros are equal and a NaN equals nothing. The
pattern itself is written as sixteen hexadecimal digits, which loses no NaN and no
sign of zero.
-/

structure Binary64 where
  bits : UInt64
deriving DecidableEq, Repr, Inhabited

/-- What a bit pattern stands for: `mantissa * 2 ^ exponent` under a sign, or one
of the values that are no numbers. -/
inductive Magnitude where
  | finite (mantissa : Nat) (exponent : Int)
  | infinite
  | notANumber
deriving DecidableEq, Repr

namespace Binary64

def hexDigit? (c : Char) : Option Nat :=
  if c.isDigit then some (c.toNat - '0'.toNat)
  else if 'a' ≤ c && c ≤ 'f' then some (c.toNat - 'a'.toNat + 10)
  else none

/-- Reads exactly sixteen lowercase hexadecimal digits as a bit pattern. -/
def ofHex? (text : String) : Option Binary64 := do
  let digits ← text.toList.mapM hexDigit?
  if digits.length = 16 then
    some ⟨(digits.foldl (fun number digit => 16 * number + digit) 0).toUInt64⟩
  else none

def hex (number : Binary64) : String :=
  let digits := Nat.toDigits 16 number.bits.toNat
  String.ofList (List.replicate (16 - digits.length) '0' ++ digits)

def negative (number : Binary64) : Bool := number.bits.toNat / Nat.pow 2 63 == 1

def exponentField (number : Binary64) : Nat := number.bits.toNat / Nat.pow 2 52 % Nat.pow 2 11

def fractionField (number : Binary64) : Nat := number.bits.toNat % Nat.pow 2 52

def magnitude (number : Binary64) : Magnitude :=
  if number.exponentField = Nat.pow 2 11 - 1 then
    if number.fractionField = 0 then .infinite else .notANumber
  else if number.exponentField = 0 then
    .finite number.fractionField (-1074)
  else
    .finite (Nat.pow 2 52 + number.fractionField) ((number.exponentField : Int) - 1075)

def isNaN (number : Binary64) : Bool := number.magnitude = .notANumber

def isZero (number : Binary64) : Bool :=
  number.exponentField == 0 && number.fractionField == 0

def same (first second : Binary64) : Bool :=
  !first.isNaN && !second.isNaN &&
    (first.bits == second.bits || (first.isZero && second.isZero))

end Binary64

end TypedTree
