import PriceBoard.Json.Value
import PriceBoard.Decimal.Printer
import PriceBoard.Double.Shortest
import PriceBoard.Text.Quoted

/-!
# Documents in messages

A message that speaks of a piece of a document shows it on one line.  `quoted` keeps the kinds
apart: texts stand between quotation marks and decimals are marked as such.  `display` shows a text
or a decimal as it is; inside arrays and objects the members are quoted.
-/

namespace PriceBoard.Json

mutual

/-- The content with its kind visible. -/
def quoted : Json → String
  | null => "None"
  | bool value => if value then "True" else "False"
  | integer value => toString value
  | decimal value => "Decimal('" ++ value.text ++ "')"
  | double value => Double.text value
  | string value => value.quoted
  | array items => "[" ++ ", ".intercalate (quotedItems items) ++ "]"
  | object fields => "\x7b" ++ ", ".intercalate (quotedFields fields) ++ "\x7d"

/-- The items of an array, one by one. -/
def quotedItems : List Json → List String
  | [] => []
  | item :: others => quoted item :: quotedItems others

/-- The fields of an object, one by one. -/
def quotedFields : List (Spelling × Json) → List String
  | [] => []
  | (name, value) :: others => (name.quoted ++ ": " ++ quoted value) :: quotedFields others

end

/-- The content as running text, with all letters that it spells. -/
def spelled : Json → Spelling
  | string value => value
  | decimal value => .ofText value.text
  | other => .ofText (quoted other)

/-- The content as running text. -/
def display (content : Json) : String :=
  content.spelled.text

end PriceBoard.Json
