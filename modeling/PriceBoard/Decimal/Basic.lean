import PriceBoard.Power

/-!
# Decimals

Prices are decimals of any length, exactly as their provider wrote them: `1.5` and `1.50` are the
same number and different numerals.  A `Numeral` is a finite decimal, kept as its sign, the number
that its digits spell and the exponent of the last digit.  A `Decimal` is a numeral, an infinity
or not a number at all.
-/

namespace PriceBoard

/-! ## Numerals -/

/-- The finite decimal `± coefficient · 10 ^ exponent`. -/
structure Numeral where
  negative : Bool
  coefficient : Nat
  exponent : Int
  deriving DecidableEq

/-- How many digits the number has; zero has one.  Sixteen digits are counted at a time as long as
there are more of them. -/
def digitCount (number : Nat) : Nat :=
  if number < 10 then 1
  else if number < 10000000000000000 then digitCount (number / 10) + 1
  else digitCount (number / 10000000000000000) + 16

namespace Numeral

/-- The whole number, with exponent zero. -/
def ofInt (number : Int) : Numeral :=
  ⟨number < 0, number.natAbs, 0⟩

/-- The numeral `0`. -/
def zero : Numeral :=
  ⟨false, 0, 0⟩

/-- The numeral `1`. -/
def one : Numeral :=
  ⟨false, 1, 0⟩

/-- The exponent of the first digit. -/
def adjusted (number : Numeral) : Int :=
  number.exponent + digitCount number.coefficient - 1

/-- Whether the numeral spells zero, of either sign. -/
def isZero (number : Numeral) : Bool :=
  number.coefficient == 0

/-- Whether the number is above zero. -/
def isPositive (number : Numeral) : Bool :=
  !number.negative && number.coefficient != 0

/-- Whether the number is below zero. -/
def isNegative (number : Numeral) : Bool :=
  number.negative && number.coefficient != 0

/-- The number of units of `10 ^ (-places)` in the magnitude, what is left over dropped. -/
def truncatedUnits (number : Numeral) (places : Nat) : Nat :=
  let shift := number.exponent + places
  if 0 ≤ shift then number.coefficient * tenPower shift.toNat
  else if digitCount number.coefficient < shift.natAbs then 0
  else number.coefficient / tenPower shift.natAbs

/-- The exponent from which the digits of a nonzero whole number are too many to be written
down. -/
def exponentCeiling : Int :=
  tenPower 10

/-- The whole part, toward zero; nothing if it has too many digits to be written down. -/
def truncate? (number : Numeral) : Option Int :=
  if number.isZero then some 0
  else if exponentCeiling ≤ number.exponent then none
  else
    let magnitude : Int := number.truncatedUnits 0
    some (if number.negative then -magnitude else magnitude)

end Numeral

/-! ## Decimals -/

/-- A decimal as it can be written: a numeral, an infinity or not a number.  Something that is not
a number may carry a number of its own, and may be of the kind that no operation accepts. -/
inductive Decimal where
  | finite (number : Numeral)
  | infinity (negative : Bool)
  | nan (negative signaling : Bool) (payload : Nat)
  deriving DecidableEq

/-- Why an operation on decimals has no result. -/
inductive Signal where
  /-- The text spells no decimal. -/
  | malformed
  /-- The operation is not defined on its operands, or an exponent is out of every range. -/
  | invalid
  /-- The result is above every decimal of the working range. -/
  | overflow
  deriving DecidableEq

namespace Signal

/-- The name of the kind of a signal. -/
def kindName : Signal → String
  | malformed | invalid => "InvalidOperation"
  | overflow => "Overflow"

/-- The condition behind a signal. -/
def message : Signal → String
  | malformed => "[<class 'decimal.ConversionSyntax'>]"
  | invalid => "[<class 'decimal.InvalidOperation'>]"
  | overflow => "[<class 'decimal.Overflow'>]"

end Signal

namespace Decimal

/-- The numeral, if the decimal is one. -/
def numeral? : Decimal → Option Numeral
  | finite number => some number
  | infinity _ => none
  | nan _ _ _ => none

/-- Whether the decimal is a numeral. -/
def isFinite (value : Decimal) : Bool :=
  value.numeral?.isSome

/-- Whether the decimal is above zero; the question is invalid for what is not a number. -/
def isPositive : Decimal → Except Signal Bool
  | finite number => .ok number.isPositive
  | infinity negative => .ok !negative
  | nan _ _ _ => .error .invalid

end Decimal

end PriceBoard
