import PriceBoard.Decimal.Basic

/-!
# Rounding to the working precision

Computed prices have 28 digits, unless an operation asks for more.  An exact result is kept, with
the exponent nearest to the one that its operation prefers; any other is rounded to the nearest
decimal of so many digits, and from the middle between two to the one with an even last digit.

Numbers whose first digit is above `10 ^ 999999` are refused.  Numbers whose first digit is below
`10 ^ (-999999)` lose digits at their end, down to zero: of the decimals of 28 digits the last
digit stands at `10 ^ (-1000026)` or above.

## Strategy

`roundRatio` rounds any ratio of two numbers, times a power of ten, in one step: it finds the
exponent of the first digit, from it the exponent of the last digit to keep, and takes the nearest
whole number of units of that last digit.  Products and quotients are ratios.  A numeral is one,
too, but `fit` first looks whether it has to be rounded at all.
-/

namespace PriceBoard

/-! ## Nearest whole numbers -/

/-- The whole number nearest to `numerator / denominator`; the even one, if two are equally
near. -/
def roundHalfEven (numerator denominator : Nat) : Nat :=
  let quotient := numerator / denominator
  let rest := numerator % denominator
  if 2 * rest < denominator then quotient
  else if denominator < 2 * rest then quotient + 1
  else quotient + quotient % 2

/-! ## The working range -/

/-- How many digits a computed number has, if nothing else is asked for. -/
def precision : Nat :=
  28

/-- The exponent of the first digit of the largest computed numbers. -/
def topAdjusted : Int :=
  999999

/-- The exponent of the first digit of the smallest computed numbers that have all their digits. -/
def lowAdjusted : Int :=
  -999999

/-- The exponent of the last digit of the smallest computed numbers of so many digits. -/
def bottomExponent (digits : Nat) : Int :=
  lowAdjusted - (digits - 1)

namespace Numeral

/-- The exponent of the first digit of `numerator / denominator`, both above zero. -/
def ratioAdjusted (numerator denominator : Nat) : Int :=
  let estimate : Int := (digitCount numerator : Int) - digitCount denominator
  if denominator * tenPower estimate.toNat ≤ numerator * tenPower (-estimate).toNat then estimate
  else estimate - 1

/-- Drops zeros at the end, at most `limit` of them, while the exponent is below `ideal`. -/
def dropZeros (ideal : Int) : Nat → Nat → Int → Nat × Int
  | 0, coefficient, exponent => (coefficient, exponent)
  | limit + 1, coefficient, exponent =>
    if exponent < ideal && coefficient % 10 == 0 then
      dropZeros ideal limit (coefficient / 10) (exponent + 1)
    else (coefficient, exponent)

/-- Zero with the exponent of the working range nearest to `ideal`. -/
def zeroNear (digits : Nat) (negative : Bool) (ideal : Int) : Numeral :=
  ⟨negative, 0, max (bottomExponent digits) (min ideal topAdjusted)⟩

/-- The number `± numerator / denominator · 10 ^ exponent` with so many digits, if exact with an
exponent as near to `ideal` as can be. -/
def roundRatio (digits : Nat) (negative : Bool) (numerator denominator : Nat)
    (exponent ideal : Int) : Except Signal Numeral :=
  if numerator = 0 then .ok (zeroNear digits negative ideal)
  else
    let first := ratioAdjusted numerator denominator + exponent
    if topAdjusted < first then .error .overflow
    else if first < bottomExponent digits - 1 then .ok ⟨negative, 0, bottomExponent digits⟩
    else
      let last := max (first - (digits - 1)) (bottomExponent digits)
      let shift := exponent - last
      let scaledNumerator := numerator * tenPower shift.toNat
      let scaledDenominator := denominator * tenPower (-shift).toNat
      let units := roundHalfEven scaledNumerator scaledDenominator
      if scaledNumerator % scaledDenominator = 0 then
        let (coefficient, lastExponent) := dropZeros ideal digits units last
        .ok ⟨negative, coefficient, lastExponent⟩
      else if units = tenPower digits then
        if topAdjusted < first + 1 then .error .overflow
        else .ok ⟨negative, tenPower (digits - 1), last + 1⟩
      else .ok ⟨negative, units, last⟩

/-- Whether the numeral is no zero and has so many digits at most, all in the working range. -/
def fits (digits : Nat) (number : Numeral) : Bool :=
  !number.isZero && digitCount number.coefficient ≤ digits &&
    bottomExponent digits ≤ number.exponent && number.adjusted ≤ topAdjusted

/-- The numeral with so many digits at most; as it is written, if it fits. -/
def fit (digits : Nat) (number : Numeral) : Except Signal Numeral :=
  if number.fits digits then .ok number
  else roundRatio digits number.negative number.coefficient 1 number.exponent number.exponent

end Numeral

end PriceBoard
