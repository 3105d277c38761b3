import PriceBoard.Text.Hexadecimal
import PriceBoard.Text.Printable
import PriceBoard.Text.Spelling

/-!
# Quoted texts

A message shows a text between quotation marks, so that its ends and its hidden characters can be
seen.  The mark is the single one, unless the text holds a single and no double one.  The mark in
use and the backslash are escaped by a backslash, hidden characters, and halves of pairs that stand
alone, by their number.
-/

namespace PriceBoard

/-! ## Letters between marks -/

namespace Text

/-- The mark that encloses the text. -/
def quoteMark (letters : List Letter) : Char :=
  if letters.contains (.character '\'') && !letters.contains (.character '"') then '"' else '\''

/-- A hidden character, by its number. -/
def escapeHidden (code : Nat) : List Char :=
  if code < 0x100 then '\\' :: 'x' :: hexWord 2 code
  else if code < 0x10000 then '\\' :: 'u' :: hexWord 4 code
  else '\\' :: 'U' :: hexWord 8 code

/-- Characters in a row and where they stand, by the code of the first one and their count. -/
def rowText (position first count : Nat) : String :=
  if count = 1 then
    "character '" ++ String.ofList (escapeHidden first) ++ "' in position " ++ toString position
  else s!"characters in position {position}-{position + count - 1}"

/-- One letter between marks. -/
def quoteLetter (mark : Char) : Letter → List Char
  | .half code => escapeHidden code
  | .character letter =>
    if letter = mark || letter = '\\' then ['\\', letter]
    else if letter = '\n' then ['\\', 'n']
    else if letter = '\r' then ['\\', 'r']
    else if letter = '\t' then ['\\', 't']
    else if isPrintable letter then [letter]
    else escapeHidden letter.toNat

end Text

/-! ## Quoting -/

/-- The spelled text between quotation marks. -/
def Spelling.quoted (spelling : Spelling) : String :=
  let mark := Text.quoteMark spelling.letters
  String.ofList (mark :: spelling.letters.flatMap (Text.quoteLetter mark) ++ [mark])

/-- The text between quotation marks. -/
def Text.quote (text : String) : String :=
  (Spelling.ofText text).quoted

end PriceBoard
