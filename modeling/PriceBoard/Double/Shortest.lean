import PriceBoard.Double.Basic
import PriceBoard.Decimal.Printer

/-!
# The shortest text of a double

A double is written with the fewest digits that are read back as the same double, and of several
such texts the one nearest to its value.

## Strategy

For one digit, two digits and so on the two decimals of that many digits on either side of the
value are read back.  The first count with a hit is the answer; seventeen digits always suffice.
-/

namespace PriceBoard.Double

/-! ## The digits -/

/-- The numerator and the denominator of `significand · 2 ^ exponent`. -/
def ratio (significand : Nat) (exponent : Int) : Nat × Nat :=
  (significand * twoPower exponent.toNat, twoPower (-exponent).toNat)

/-- Whether the decimal `units · 10 ^ exponent` is read as the double with the bits. -/
def readsBack (bits : Nat) (units : Nat) (exponent : Int) : Bool :=
  nearestBits (units * tenPower exponent.toNat) (tenPower (-exponent).toNat) == bits

/-- The units of `10 ^ exponent` that are read back as the double: of the two neighbours of its
value, the nearer one that is. -/
def neighbour? (bits : Nat) (value : Nat × Nat) (exponent : Int) : Option Nat :=
  let numerator := value.1 * tenPower (-exponent).toNat
  let denominator := value.2 * tenPower exponent.toNat
  let near := roundHalfEven numerator denominator
  let below := numerator / denominator
  let far := if near = below then below + 1 else below
  if readsBack bits near exponent then some near
  else if readsBack bits far exponent then some far
  else none

/-- Searches from `digits` digits on, with `steps` more digits to try. -/
def searchDigits (bits : Nat) (value : Nat × Nat) (first : Int) : Nat → Nat → Nat × Int
  | 0, digits =>
    let exponent := first - (digits : Int)
    (roundHalfEven (value.1 * tenPower (-exponent).toNat) (value.2 * tenPower exponent.toNat),
      exponent)
  | steps + 1, digits =>
    let exponent := first - (digits : Int)
    match neighbour? bits value exponent with
    | some units => (units, exponent)
    | none => searchDigits bits value first steps (digits + 1)

/-- The shortest decimal `units · 10 ^ exponent` that is read back as the double. -/
def shortest (significand : Nat) (exponent : Int) : Nat × Int :=
  let value := ratio significand exponent
  searchDigits (nearestBits value.1 value.2) value (Numeral.ratioAdjusted value.1 value.2) 16 0

/-! ## The text -/

/-- The digits of the number without zeros at the end, and how many zeros were dropped. -/
def significantDigits (units : Nat) : List Char × Nat :=
  let digits := Nat.toDigits 10 units
  let kept := (digits.reverse.dropWhile (· = '0')).reverse
  (kept, digits.length - kept.length)

/-- The exponent of the first digit, with a sign and at least two digits. -/
def exponentLetters (exponent : Int) : List Char :=
  let digits := Nat.toDigits 10 exponent.natAbs
  'e' :: (if exponent < 0 then '-' else '+') ::
    (List.replicate (2 - digits.length) '0' ++ digits)

/-- The digits before and behind the point.  From `1e-4` up to below `1e16` the point stands in
its place, with at least one digit on either side. -/
def placePoint (digits : List Char) (exponent : Int) : List Char :=
  let first := exponent + digits.length - 1
  if first < -4 || 16 ≤ first then
    match digits with
    | [] => []
    | [digit] => digit :: exponentLetters first
    | digit :: others => digit :: '.' :: others ++ exponentLetters first
  else if 0 ≤ exponent then digits ++ List.replicate exponent.toNat '0' ++ ['.', '0']
  else Numeral.pointed digits exponent.natAbs

/-- The text of a magnitude. -/
def magnitudeLetters (significand : Nat) (exponent : Int) : List Char :=
  if significand = 0 then ['0', '.', '0']
  else
    let (units, unitExponent) := shortest significand exponent
    let (digits, dropped) := significantDigits units
    placePoint digits (unitExponent + dropped)

/-- The double as a text. -/
def text (number : Float) : String :=
  match parts number with
  | .finite negative significand exponent =>
    let body := magnitudeLetters significand exponent
    String.ofList (if negative then '-' :: body else body)
  | .infinity negative => if negative then "-inf" else "inf"
  | .nan => "nan"

end PriceBoard.Double
