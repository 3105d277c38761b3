import PriceBoard.Decimal.Basic
import PriceBoard.Text.Blank
import PriceBoard.Text.Digit

/-!
# Reading decimals

A decimal is written with a sign, digits with at most one point among them, and an exponent; or as
`inf`, `infinity`, `nan`, `snan`, the last two with digits of their own.  Letters may be in either
case, digits in any script, blanks may stand around the text and underscores anywhere in it.  No
digit is lost, however many there are.

Exponents have a range, but one that no price comes near: eighteen digits and a little more for
small numbers.
-/

namespace PriceBoard.Decimal

open Text

/-! ## Letters -/

/-- The ASCII character that stands for the letter in a number. -/
def asciiForm? (letter : Char) : Option Char :=
  if letter.toNat = 0 then none
  else if letter.toNat < 0x80 then some letter
  else (digit? letter).map digitLetter

/-- The word in ASCII, without blanks around it and without underscores. -/
def normalForm? (text : String) : Option (List Char) :=
  ((trimWord isBlank text.toList).filter (· ≠ '_')).mapM asciiForm?

/-- Whether the letter is an ASCII digit. -/
def isDigit (letter : Char) : Bool :=
  (asciiDigit? letter).isSome

/-- The number that the digits spell. -/
def numberOf (digits : List Char) : Nat :=
  digits.foldl (fun number letter => 10 * number + (letter.toNat - '0'.toNat)) 0

/-- Cuts a sign off the front of the word: whether it is a minus, and what follows. -/
def cutSign : List Char → Bool × List Char
  | '-' :: rest => (true, rest)
  | '+' :: rest => (false, rest)
  | word => (false, word)

/-! ## Numerals -/

/-- The exponent after the digits: none at all, or the letter `e` and a signed number. -/
def exponentOf? : List Char → Option Int
  | [] => some 0
  | letter :: rest =>
    if letter.toLower = 'e' then
      let (negative, digits) := cutSign rest
      if digits.isEmpty || !digits.all isDigit then none
      else some (if negative then -(numberOf digits : Int) else numberOf digits)
    else none

/-- The largest exponent that a first digit can have. -/
def highestAdjusted : Int :=
  999999999999999999

/-- The smallest exponent that a last digit can have. -/
def lowestExponent : Int :=
  -1999999999999999997

/-- Whether the exponents of the numeral are in range. -/
def inRange (number : Numeral) : Bool :=
  let top := if number.isZero then number.exponent else number.adjusted
  top ≤ highestAdjusted && lowestExponent ≤ number.exponent

/-- Reads digits with at most one point, and an exponent. -/
def numeralOf (negative : Bool) (word : List Char) : Except Signal Numeral :=
  let whole := word.takeWhile isDigit
  let rest := word.dropWhile isDigit
  let (fraction, tail) :=
    match rest with
    | '.' :: after => (after.takeWhile isDigit, after.dropWhile isDigit)
    | _ => ([], rest)
  if whole.isEmpty && fraction.isEmpty then .error .malformed
  else
    match exponentOf? tail with
    | none => .error .malformed
    | some exponent =>
      let number : Numeral :=
        ⟨negative, numberOf (whole ++ fraction), exponent - (fraction.length : Int)⟩
      if inRange number then .ok number else .error .invalid

/-! ## Decimals -/

/-- Reads what follows the sign. -/
def ofUnsigned (negative : Bool) (word : List Char) : Except Signal Decimal :=
  let lower := word.map Char.toLower
  if lower = ['i', 'n', 'f'] || lower = ['i', 'n', 'f', 'i', 'n', 'i', 't', 'y'] then
    .ok (.infinity negative)
  else
    match lower with
    | 'n' :: 'a' :: 'n' :: payload =>
      if payload.all isDigit then .ok (.nan negative false (numberOf payload))
      else .error .malformed
    | 's' :: 'n' :: 'a' :: 'n' :: payload =>
      if payload.all isDigit then .ok (.nan negative true (numberOf payload))
      else .error .malformed
    | _ => (numeralOf negative word).map .finite

/-- The decimal that the text spells. -/
def ofText (text : String) : Except Signal Decimal :=
  match normalForm? text with
  | none => .error .malformed
  | some word =>
    let (negative, rest) := cutSign word
    ofUnsigned negative rest

end PriceBoard.Decimal
