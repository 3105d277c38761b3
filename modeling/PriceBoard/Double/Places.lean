import PriceBoard.Double.Basic
import PriceBoard.Decimal.Printer

/-!
# Fixed decimal places

A duration is logged with three decimal places and recorded with six.  Both start from the exact
value of the double: the number of thousandths, or millionths, is the nearest whole number, the
even one from the middle.
-/

namespace PriceBoard.Double

/-- The whole number nearest to `significand · 2 ^ exponent · 10 ^ places`. -/
def nearestUnits (significand : Nat) (exponent : Int) (places : Nat) : Nat :=
  roundHalfEven (significand * tenPower places * twoPower exponent.toNat)
    (twoPower (-exponent).toNat)

/-- The double with the given number of decimal places. -/
def fixedText (places : Nat) (number : Float) : String :=
  match parts number with
  | .finite negative significand exponent =>
    (Numeral.mk negative (nearestUnits significand exponent places) (-(places : Int))).fixedText
  | .infinity negative => if negative then "-inf" else "inf"
  | .nan => "nan"

/-- The double nearest to the number of the given decimal places that is nearest to the double. -/
def roundPlaces (places : Nat) (number : Float) : Float :=
  match parts number with
  | .finite negative significand exponent =>
    nearest negative (nearestUnits significand exponent places) (tenPower places)
  | .infinity _ | .nan => number

end PriceBoard.Double
