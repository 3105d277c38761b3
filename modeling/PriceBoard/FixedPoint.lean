import PriceBoard.Decimal.Arithmetic
import PriceBoard.Decimal.Printer

/-!
# Fixed-point prices

A published price is a whole number of units of `10 ^ (-12)` that fits into 128 bits.  Places
behind the twelfth are dropped.  A decimal has such a price if it is finite, not below zero, and if
its whole part, in units, fits into 128 bits; where only the places behind the point exceed the
bound, the largest price stands for it.

## Strategy

Coefficients may be long and exponents enormous.  A first digit too far to the left or to the right
decides at once, so that powers of ten are taken of small exponents only.

The whole part and the places behind the point are put into units one after the other.  Decimals
are computed with a limited number of digits; the places are computed with so many that every digit
of the price has room, and those that putting them into units adds.
-/

namespace PriceBoard.FixedPoint

/-- How many places of a price are kept. -/
def places : Nat :=
  12

/-- How many units make one. -/
def scale : Nat :=
  tenPower places

/-- The largest price. -/
def largest : Nat :=
  twoPower 128 - 1

/-- A whole part with more digits than this is too large. -/
def wholeDigits : Nat :=
  27

/-- Why a decimal has no fixed-point price, or why none was found. -/
inductive Fault where
  | notFinite (value : Decimal)
  | negative (value : Numeral)
  | tooLarge (value : Numeral)
  /-- An operation on the way has no result. -/
  | signal (cause : Signal)
  deriving DecidableEq

/-- Whether the decimal is out of the range of prices. -/
def Fault.isRange : Fault → Bool
  | notFinite _ | negative _ | tooLarge _ => true
  | signal _ => false

/-- The reason in words. -/
def Fault.message : Fault → String
  | notFinite value => "cannot convert non-finite decimal " ++ value.text
  | negative value => "cannot convert negative decimal " ++ value.text ++ " to unsigned"
  | tooLarge value => "decimal " ++ value.text ++ " is too large for u128 fixed point"
  | signal cause => cause.message

/-- How many digits the places behind the point are computed with: room for every digit of the
number and for the places of a price. -/
def workingDigits (value : Numeral) : Nat :=
  max precision (digitCount value.coefficient + places + 1)

/-- The places of the number behind the point, in units; `whole` is its whole part. -/
def fractionUnits (value : Numeral) (whole : Nat) : Except Signal Nat := do
  let fraction ← value.subWithin (workingDigits value) (.ofInt whole)
  let scaled ← fraction.shiftWithin (workingDigits value) places
  return scaled.truncatedUnits 0

/-- The fixed-point price of a numeral. -/
def ofNumeral (value : Numeral) : Except Fault Nat :=
  if value.isNegative then .error (.negative value)
  else if wholeDigits ≤ value.adjusted then .error (.tooLarge value)
  else if value.adjusted < -places then .ok 0
  else
    let whole := value.truncatedUnits 0
    match fractionUnits value whole with
    | .error cause => .error (.signal cause)
    | .ok fraction =>
      if largest < whole * scale || largest < fraction then .error (.tooLarge value)
      else .ok (min (whole * scale + fraction) largest)

/-- The fixed-point price of a decimal. -/
def ofDecimal : Decimal → Except Fault Nat
  | .finite value => ofNumeral value
  | value => .error (.notFinite value)

end PriceBoard.FixedPoint
