import PriceBoard.Decimal.Rounding

/-!
# Computing with decimals

Multiplication, subtraction, division and shifting of numerals, each rounded once to the working
precision, and the reciprocal of a decimal.  Differences and shifts may ask for a precision of
their own.

An exact product prefers the sum of the exponents, an exact difference the smaller exponent and an
exact quotient the difference of the exponents.
-/

namespace PriceBoard

namespace Numeral

/-- The product. -/
def mul (left right : Numeral) : Except Signal Numeral :=
  let exponent := left.exponent + right.exponent
  roundRatio precision (left.negative != right.negative) (left.coefficient * right.coefficient) 1
    exponent exponent

/-- The quotient; the divisor is not zero. -/
def div (left right : Numeral) : Except Signal Numeral :=
  let exponent := left.exponent - right.exponent
  roundRatio precision (left.negative != right.negative) left.coefficient right.coefficient
    exponent exponent

/-- The coefficient with its sign. -/
def signedCoefficient (number : Numeral) : Int :=
  if number.negative then -(number.coefficient : Int) else number.coefficient

/-- The difference, in units of the last digit of the longer number. -/
def differenceUnits (left right : Numeral) : Int :=
  let exponent := min left.exponent right.exponent
  left.signedCoefficient * tenPower (left.exponent - exponent).toNat -
    right.signedCoefficient * tenPower (right.exponent - exponent).toNat

/-- The exact difference.  A zero difference is negative only if the first operand is a negative and
the second a positive zero. -/
def difference (left right : Numeral) : Numeral :=
  let units := left.differenceUnits right
  let negative :=
    if units = 0 then left.negative && !right.negative && left.isZero && right.isZero
    else decide (units < 0)
  ⟨negative, units.natAbs, min left.exponent right.exponent⟩

/-- The difference, with so many digits at most. -/
def subWithin (digits : Nat) (left right : Numeral) : Except Signal Numeral :=
  (left.difference right).fit digits

/-- The difference. -/
def sub (left right : Numeral) : Except Signal Numeral :=
  left.subWithin precision right

/-- The numeral with the point moved to the right. -/
def shift (places : Int) (number : Numeral) : Numeral :=
  ⟨number.negative, number.coefficient, number.exponent + places⟩

/-- How far a numeral with so many digits can be shifted. -/
def longestShift (digits : Nat) : Int :=
  2 * (topAdjusted + digits)

/-- The numeral with the point moved to the right, with so many digits at most. -/
def shiftWithin (digits : Nat) (places : Int) (number : Numeral) : Except Signal Numeral :=
  if places.natAbs ≤ longestShift digits then (number.shift places).fit digits
  else .error .invalid

/-- The larger of the number and zero; zero itself is kept as it is written. -/
def clampNegative (number : Numeral) : Numeral :=
  if number.isNegative then zero else number

end Numeral

namespace Decimal

/-- Why a decimal has no reciprocal. -/
inductive ReciprocalFault where
  | undefinedAtZero
  | signal (cause : Signal)
  deriving DecidableEq

/-- One divided by the decimal. -/
def reciprocal : Decimal → Except ReciprocalFault Decimal
  | finite number =>
    if number.isZero then .error .undefinedAtZero
    else
      match Numeral.one.div number with
      | .ok quotient => .ok (finite quotient)
      | .error cause => .error (.signal cause)
  | infinity negative => .ok (finite ⟨negative, 0, bottomExponent precision⟩)
  | nan negative signaling payload =>
    if signaling then .error (.signal .invalid)
    else .ok (nan negative false (payload % tenPower precision))

end Decimal

end PriceBoard
