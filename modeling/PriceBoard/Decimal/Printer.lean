import PriceBoard.Decimal.Basic

/-!
# Writing decimals

A numeral is written with all its digits.  The point stands among them, or after leading zeros,
as long as the last digit is no unit above one and the first is at most six places behind the
point; all other numerals have one digit before the point and an exponent.
-/

namespace PriceBoard

open Nat (toDigits)

namespace Numeral

/-- The digits with the point `places` before their end; zeros are put in front as needed. -/
def pointed (digits : List Char) (places : Nat) : List Char :=
  if places = 0 then digits
  else
    let padded := List.replicate (places + 1 - digits.length) '0' ++ digits
    let whole := padded.length - places
    padded.take whole ++ '.' :: padded.drop whole

/-- The digits with a point after the first one, if there are more, and the exponent. -/
def scientific (digits : List Char) (exponent : Int) : List Char :=
  let mantissa :=
    match digits with
    | [] => []
    | [digit] => [digit]
    | first :: others => first :: '.' :: others
  mantissa ++ 'E' :: (if exponent < 0 then '-' else '+') :: toDigits 10 exponent.natAbs

/-- The letters of the numeral. -/
def letters (number : Numeral) : List Char :=
  let digits := toDigits 10 number.coefficient
  let body :=
    if number.exponent ≤ 0 && -6 ≤ number.adjusted then pointed digits number.exponent.natAbs
    else scientific digits number.adjusted
  if number.negative then '-' :: body else body

/-- The numeral as a text. -/
def text (number : Numeral) : String :=
  String.ofList number.letters

/-- The numeral with the point before its last `- exponent` digits, however small it is. -/
def fixedText (number : Numeral) : String :=
  let body := pointed (toDigits 10 number.coefficient) number.exponent.natAbs
  String.ofList (if number.negative then '-' :: body else body)

end Numeral

/-- The decimal as a text. -/
def Decimal.text : Decimal → String
  | finite number => number.text
  | infinity negative => if negative then "-Infinity" else "Infinity"
  | nan negative signaling payload =>
    (if negative then "-" else "") ++ (if signaling then "sNaN" else "NaN") ++
      (if payload = 0 then "" else String.ofList (toDigits 10 payload))

end PriceBoard
