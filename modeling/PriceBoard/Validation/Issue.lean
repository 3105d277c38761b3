import PriceBoard.Json.Printer

/-!
# Issues

Data from outside is checked field by field.  Whatever is wrong with a field is an `Issue`: a
problem, the path that leads to the field, and what was found there.  All issues of a record are
reported, in the order in which the record declares its fields.
-/

namespace PriceBoard

/-! ## Problems -/

/-- What is wrong with a value. -/
inductive Problem where
  | missing
  | noText
  | noInteger
  | unreadableInteger
  | oversizedInteger
  | fractionalInteger
  | noNumber
  | unreadableNumber
  | notAboveZero
  | noBoolean
  | unreadableBoolean
  | noDecimal
  | unreadableDecimal
  | notFinite
  | noList
  | noRecord
  | noRecordInRequest
  | refused (reason : String)
  | brokenDocument
  deriving DecidableEq

namespace Problem

/-- The short name of the problem. -/
def code : Problem → String
  | missing => "missing"
  | noText => "string_type"
  | noInteger => "int_type"
  | unreadableInteger => "int_parsing"
  | oversizedInteger => "int_parsing_size"
  | fractionalInteger => "int_from_float"
  | noNumber => "float_type"
  | unreadableNumber => "float_parsing"
  | notAboveZero => "greater_than"
  | noBoolean => "bool_type"
  | unreadableBoolean => "bool_parsing"
  | noDecimal => "decimal_type"
  | unreadableDecimal => "decimal_parsing"
  | notFinite => "finite_number"
  | noList => "list_type"
  | noRecord => "model_type"
  | noRecordInRequest => "model_attributes_type"
  | refused _ => "value_error"
  | brokenDocument => "json_invalid"

/-- The problem in words. -/
def message : Problem → String
  | missing => "Field required"
  | noText => "Input should be a valid string"
  | noInteger => "Input should be a valid integer"
  | unreadableInteger => "Input should be a valid integer, unable to parse string as an integer"
  | oversizedInteger => "Unable to parse input string as an integer, exceeded maximum size"
  | fractionalInteger => "Input should be a valid integer, got a number with a fractional part"
  | noNumber => "Input should be a valid number"
  | unreadableNumber => "Input should be a valid number, unable to parse string as a number"
  | notAboveZero => "Input should be greater than 0"
  | noBoolean => "Input should be a valid boolean"
  | unreadableBoolean => "Input should be a valid boolean, unable to interpret input"
  | noDecimal => "Decimal input should be an integer, float, string or Decimal object"
  | unreadableDecimal => "Input should be a valid decimal"
  | notFinite => "Input should be a finite number"
  | noList => "Input should be a valid list"
  | noRecord => "Input should be a valid dictionary or instance of AssetSpecifier"
  | noRecordInRequest => "Input should be a valid dictionary or object to extract fields from"
  | refused reason => "Value error, " ++ reason
  | brokenDocument => "JSON decode error"

end Problem

/-! ## Issues -/

/-- A step from a record to one of its fields, or from a list to one of its items. -/
inductive Step where
  | field (name : String)
  | item (index : Nat)
  deriving DecidableEq

/-- The text of a step in a path. -/
def Step.text : Step → String
  | field name => name
  | item index => toString index

/-- A problem, the path to it and what was found there. -/
structure Issue where
  path : List Step
  problem : Problem
  input : Json

namespace Issue

/-! ## Long inputs -/

/-- The longest part at the front that takes at most the given number of bytes. -/
def frontBytes : Nat → List Char → List Char
  | _, [] => []
  | room, letter :: rest =>
    if letter.utf8Size ≤ room then letter :: frontBytes (room - letter.utf8Size) rest else []

/-- How many bytes of an input are shown. -/
def shownBytes : Nat :=
  50

/-- The text, if it is not too long; otherwise its two ends, with dots between them. -/
def abbreviated (text : String) : String :=
  if text.utf8ByteSize ≤ shownBytes then text
  else
    let letters := text.toList
    let front := frontBytes (shownBytes / 2) letters
    let back := (frontBytes (shownBytes / 2 - 1) letters.reverse).reverse
    String.ofList front ++ "..." ++ String.ofList back

/-! ## Issues in messages -/

/-- The server with a page about each problem. -/
def helpServer : String :=
  "errors.pydantic.dev"

/-- The address of the page about the problem. -/
def helpPage (problem : Problem) : String :=
  "https://" ++ helpServer ++ "/2.14/v/" ++ problem.code

/-- The line with the path; a record as a whole has none. -/
def pathLine (path : List Step) : String :=
  if path.isEmpty then "" else ".".intercalate (path.map Step.text) ++ "\n"

/-- The issue on three lines: the path, the problem with the input, and where to read on. -/
def text (issue : Issue) : String :=
  pathLine issue.path ++ "  " ++ issue.problem.message ++
    " [type=" ++ issue.problem.code ++
    ", input_value=" ++ abbreviated issue.input.quoted ++
    ", input_type=" ++ issue.input.kindName ++ "]\n    For further information visit " ++
    helpPage issue.problem

end Issue

/-! ## Checked values -/

/-- A value, or all that is wrong with the data it was to be read from. -/
abbrev Checked (α : Type) : Type :=
  Except (List Issue) α

namespace Checked

variable {α β : Type}

/-- Applies a checked function to a checked value; the issues of both are reported. -/
def apply (function : Checked (α → β)) (value : Checked α) : Checked β :=
  match function, value with
  | .ok function, .ok value => .ok (function value)
  | .ok _, .error issues => .error issues
  | .error issues, .ok _ => .error issues
  | .error first, .error second => .error (first ++ second)

/-- Puts a step in front of the paths of all issues. -/
def under (step : Step) (value : Checked α) : Checked α :=
  value.mapError fun issues => issues.map fun issue => { issue with path := step :: issue.path }

/-- What comes of an input, with a single problem at the place where it stands. -/
def here (input : Json) (value : Except Problem α) : Checked α :=
  value.mapError fun problem => [⟨[], problem, input⟩]

/-- Checks the items one by one; the issues of all are reported, with the index of their item. -/
def all (check : β → Checked α) (items : List β) : Checked (List α) :=
  items.zipIdx.foldr
    (fun (item, index) others => apply ((under (.item index) (check item)).map List.cons) others)
    (.ok [])

end Checked

end PriceBoard
