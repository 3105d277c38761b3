import PriceBoard.Double.Shortest
import PriceBoard.Json.Value
import PriceBoard.Text.Hexadecimal

/-!
# Documents as they are sent

A document is sent without blanks between its parts, and all characters but the control characters
stand for themselves.  There is no text for a double that is not finite, and no bytes for half of a
pair that stands alone: a document that holds one of them cannot be sent.
-/

namespace PriceBoard.Json

/-! ## Texts -/

/-- A character between quotation marks. -/
def sentCharacter (letter : Char) : List Char :=
  if letter = '"' || letter = '\\' then ['\\', letter]
  else if letter = '\n' then ['\\', 'n']
  else if letter = '\r' then ['\\', 'r']
  else if letter = '\t' then ['\\', 't']
  else if letter = '\x0c' then ['\\', 'f']
  else if letter = '\x08' then ['\\', 'b']
  else if letter.toNat < 0x20 then '\\' :: 'u' :: Text.hexWord 4 letter.toNat
  else [letter]

/-- A letter between quotation marks. -/
def sentLetter : Letter → List Letter
  | .character letter => (sentCharacter letter).map .character
  | .half code => [.half code]

/-- The letters of a text. -/
def plain (text : String) : List Letter :=
  text.toList.map .character

/-- A text between quotation marks. -/
def sentText (text : Spelling) : List Letter :=
  plain "\"" ++ text.letters.flatMap sentLetter ++ plain "\""

/-- The parts one after the other, with a comma between neighbours. -/
def commaLetters : List (List Letter) → List Letter
  | [] => []
  | [part] => part
  | part :: others => part ++ plain "," ++ commaLetters others

/-! ## Documents -/

/-- What the names of fields start with that are not sent. -/
def internalMark : String :=
  "_sa"

/-- Whether a field is sent. -/
def isSent (name : Spelling) : Bool :=
  !(plain internalMark).isPrefixOf name.letters

mutual

/-- The letters of the document, if all of its doubles are finite. -/
def compact? : Json → Option (List Letter)
  | null => some (plain "null")
  | bool value => some (plain (if value then "true" else "false"))
  | integer value => some (plain (toString value))
  | decimal value => some (plain value.text)
  | double value => if Double.isFinite value then some (plain (Double.text value)) else none
  | string value => some (sentText value)
  | array items => do
    return plain "[" ++ commaLetters (← compactItems? items) ++ plain "]"
  | object fields => do
    return plain "\x7b" ++ commaLetters (← compactFields? fields) ++ plain "\x7d"

/-- The letters of the items, one by one. -/
def compactItems? : List Json → Option (List (List Letter))
  | [] => some []
  | item :: others => do
    return (← compact? item) :: (← compactItems? others)

/-- The letters of the fields that are sent, one by one. -/
def compactFields? : List (Spelling × Json) → Option (List (List Letter))
  | [] => some []
  | (name, value) :: others => do
    if isSent name then
      return (sentText name ++ plain ":" ++ (← compact? value)) :: (← compactFields? others)
    else compactFields? others

end

end PriceBoard.Json
