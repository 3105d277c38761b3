import PriceBoard.Decimal.Rounding

/-!
# Doubles

Clocks and intervals are measured in binary fractions of 64 bits.  This file takes such a fraction
apart into a whole number times a power of two, and finds the fraction nearest to a given ratio,
to the even neighbour from the middle.  Everything in between is exact arithmetic of whole
numbers, so that texts and roundings built on it lose nothing.
-/

namespace PriceBoard.Double

/-! ## Taking apart -/

/-- The value of a double: `± significand · 2 ^ exponent`, an infinity or not a number. -/
inductive Parts where
  | finite (negative : Bool) (significand : Nat) (exponent : Int)
  | infinity (negative : Bool)
  | nan
  deriving DecidableEq

/-- The value that 64 bits stand for. -/
def partsOfBits (bits : Nat) : Parts :=
  let negative := twoPower 63 ≤ bits
  let biased : Nat := bits / twoPower 52 % twoPower 11
  let fraction : Nat := bits % twoPower 52
  if biased = twoPower 11 - 1 then
    if fraction = 0 then .infinity negative else .nan
  else if biased = 0 then .finite negative fraction (-1074)
  else .finite negative (twoPower 52 + fraction) ((biased : Int) - 1075)

/-- The value of the double. -/
def parts (number : Float) : Parts :=
  partsOfBits number.toBits.toNat

/-- Whether the double is a number and no infinity. -/
def isFinite (number : Float) : Bool :=
  match parts number with
  | .finite _ _ _ => true
  | .infinity _ | .nan => false

/-- Whether the double is above zero; what is not a number is not. -/
def isAboveZero (value : Float) : Bool :=
  match Double.parts value with
  | .finite negative significand _ => !negative && significand != 0
  | .infinity negative => !negative
  | .nan => false

/-! ## Putting together -/

/-- The bits of the infinity above zero. -/
def infinityBits : Nat :=
  (twoPower 11 - 1) * twoPower 52

/-- The largest whole number `e` with `2 ^ e ≤ numerator / denominator`, both above zero. -/
def ratioLog (numerator denominator : Nat) : Int :=
  let estimate : Int := (numerator.log2 : Int) - denominator.log2
  if denominator * twoPower estimate.toNat ≤ numerator * twoPower (-estimate).toNat then estimate
  else estimate - 1

/-- The bits of the magnitude nearest to `numerator / denominator`. -/
def nearestBits (numerator denominator : Nat) : Nat :=
  if numerator = 0 then 0
  else
    let exponent := max (ratioLog numerator denominator - 52) (-1074)
    let significand :=
      roundHalfEven (numerator * twoPower (-exponent).toNat)
        (denominator * twoPower exponent.toNat)
    -- a significand that is rounded up to the next power of two carries into the exponent
    min infinityBits ((exponent + 1074).toNat * twoPower 52 + significand)

/-- The double with the sign and the bits of the magnitude. -/
def ofMagnitude (negative : Bool) (bits : Nat) : Float :=
  Float.ofBits (UInt64.ofNat (if negative then twoPower 63 + bits else bits))

/-- The double nearest to `± numerator / denominator`. -/
def nearest (negative : Bool) (numerator denominator : Nat) : Float :=
  ofMagnitude negative (nearestBits numerator denominator)

/-- The infinity of the sign. -/
def infinity (negative : Bool) : Float :=
  ofMagnitude negative infinityBits

/-- Not a number. -/
def nan : Float :=
  Float.ofBits 0x7FF8000000000000

/-- The double nearest to the numeral. -/
def ofNumeral (number : Numeral) : Float :=
  -- far outside the range the power of ten need not be computed
  if number.isZero then ofMagnitude number.negative 0
  else if 400 < number.adjusted then infinity number.negative
  else if number.adjusted < -400 then ofMagnitude number.negative 0
  else
    nearest number.negative (number.coefficient * tenPower number.exponent.toNat)
      (tenPower (-number.exponent).toNat)

/-- The double nearest to the whole number, if there is one that is finite. -/
def ofInt? (number : Int) : Option Float :=
  let bits := nearestBits number.natAbs 1
  if bits < infinityBits then some (ofMagnitude (number < 0) bits) else none

/-! ## Whole numbers -/

/-- The whole number `significand · 2 ^ exponent`, what is behind the point dropped. -/
def wholeMagnitude (significand : Nat) (exponent : Int) : Nat :=
  if 0 ≤ exponent then significand * twoPower exponent.toNat
  else significand / twoPower (-exponent).toNat

/-- The whole part of a double, toward zero. -/
def truncate? (number : Float) : Option Int :=
  match parts number with
  | .finite negative significand exponent =>
    let magnitude : Int := wholeMagnitude significand exponent
    some (if negative then -magnitude else magnitude)
  | .infinity _ | .nan => none

/-- The double as a whole number, if it is one. -/
def toInt? (number : Float) : Option Int :=
  match parts number with
  | .finite negative significand exponent =>
    if 0 ≤ exponent || significand % twoPower (-exponent).toNat == 0 then
      let magnitude : Int := wholeMagnitude significand exponent
      some (if negative then -magnitude else magnitude)
    else none
  | .infinity _ | .nan => none

end PriceBoard.Double
