import PriceBoard.Decimal.Parser
import PriceBoard.Text.Blank
import PriceBoard.Text.Split

/-!
# Written whole numbers

A whole number may stand in a field as a text.  Blanks around it, a sign, a point with zeros only
behind it and single underscores inside do not count, and neither do zeros at its front.  These may
be grouped by underscores in any way, and a sign of minus may also follow them.

## Strategy

The word is stripped of all that does not count, step by step.  What is left has to be a plain whole
number: maybe a sign of minus, and digits of which the first is no zero unless it is the only one.
-/

namespace PriceBoard.Reader

/-! ## What does not count -/

/-- What counts of a word after zeros; `last` is the letter in front of it. -/
def afterZero? (last : Char) : List Char → Option (List Char)
  | [] => some [last]
  | letter :: rest =>
    if letter = '0' || letter = '_' then afterZero? letter rest
    else if letter = '-' || Decimal.isDigit letter then some (letter :: rest)
    else if letter = '.' then some (last :: letter :: rest)
    else none

/-- What counts of a word that starts with a digit. -/
def significant? : List Char → Option (List Char)
  | [] => none
  | letter :: rest =>
    if letter = '0' then afterZero? letter rest
    else if Decimal.isDigit letter then some (letter :: rest)
    else none

/-- The word without a point that only zeros, and at least one of them, follow. -/
def withoutZeroFraction (word : List Char) : List Char :=
  let kept := Text.dropTrailing (· = '0') word
  match kept.reverse with
  | '.' :: before => if kept.length < word.length then before.reverse else word
  | _ => word

/-! ## What is left -/

/-- The most digits that a whole number may be written with. -/
def longestInteger : Nat :=
  4300

/-- The number that plain digits spell. -/
def plainDigits? (digits : List Char) : Option Nat :=
  if digits.isEmpty || !digits.all Decimal.isDigit || longestInteger < digits.length then none
  else if digits.head? = some '0' && digits ≠ ['0'] then none
  else some (Decimal.numberOf digits)

/-- The number that a plain word spells. -/
def plainInteger? : List Char → Option Int
  | '-' :: digits => (plainDigits? digits).map fun magnitude => -magnitude
  | digits => (plainDigits? digits).map fun magnitude => magnitude

/-- Whether the text starts with a plain number of too many digits. -/
def isOversized (written : String) : Bool :=
  let digits :=
    match written.toList with
    | '-' :: rest => rest
    | word => word
  digits.head? ≠ some '0' && longestInteger < (digits.takeWhile Decimal.isDigit).length

/-- The whole number that the text spells. -/
def integerOfText? (written : String) : Option Int := do
  let (negative, body) := Decimal.cutSign (Text.trimWord Text.isSpace written.toList)
  let digits := withoutZeroFraction (← significant? body)
  let digits := (Text.withoutUnderscores? digits).getD digits
  plainInteger? (if negative then '-' :: digits else digits)

end PriceBoard.Reader
