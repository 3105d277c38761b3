import PriceBoard.Double.Basic
import PriceBoard.Decimal.Parser
import PriceBoard.Text.Split

/-!
# Reading doubles

A double is written like a decimal: a sign, digits with at most one point, an exponent, or one of
`inf`, `infinity` and `nan` in either case.  Every text that spells a number is read as the double
nearest to it, which is an infinity for numbers beyond the range.

There are two ways to treat what does not count.  `ofAsciiText?` ignores white space around the
number or underscores anywhere inside; `ofText?` ignores both, but an underscore has to stand
between two digits, and it takes the digits of any script.
-/

namespace PriceBoard.Double

open Text

/-- The word without its underscores, if each of them stands between two digits. -/
def dropUnderscores? : Bool → List Char → Option (List Char)
  | _, [] => some []
  | afterDigit, '_' :: rest =>
    match rest with
    | next :: _ =>
      if afterDigit && Decimal.isDigit next then dropUnderscores? false rest else none
    | [] => none
  | _, letter :: rest =>
    (dropUnderscores? (Decimal.isDigit letter) rest).map (letter :: ·)

/-- The double that the ASCII word spells. -/
def ofWord? (word : List Char) : Option Float :=
  let (negative, body) := Decimal.cutSign word
  let lower := body.map Char.toLower
  if lower = ['i', 'n', 'f'] || lower = ['i', 'n', 'f', 'i', 'n', 'i', 't', 'y'] then
    some (infinity negative)
  else if lower = ['n', 'a', 'n'] then some nan
  else
    let whole := body.takeWhile Decimal.isDigit
    let rest := body.dropWhile Decimal.isDigit
    let (fraction, tail) :=
      match rest with
      | '.' :: after => (after.takeWhile Decimal.isDigit, after.dropWhile Decimal.isDigit)
      | _ => ([], rest)
    if whole.isEmpty && fraction.isEmpty then none
    else
      (Decimal.exponentOf? tail).map fun exponent =>
        ofNumeral ⟨negative, Decimal.numberOf (whole ++ fraction), exponent - fraction.length⟩

/-- The double that the text spells with ASCII digits.  White space around it is ignored, and so are
single underscores inside, but not both. -/
def ofAsciiText? (text : String) : Option Float :=
  match ofWord? (trimWord isSpace text.toList) with
  | some number => some number
  | none => (withoutUnderscores? text.toList).bind ofWord?

/-- The double that the text spells with the digits of any script, white space around it
ignored. -/
def ofText? (text : String) : Option Float := do
  let word ← (trimWord isSpace text.toList).mapM Decimal.asciiForm?
  let plain ← dropUnderscores? false word
  ofWord? plain

end PriceBoard.Double
