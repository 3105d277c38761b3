import PriceBoard.Validation.Issue
import PriceBoard.Json.Value
import PriceBoard.Double.Parser
import PriceBoard.Double.Shortest
import PriceBoard.Validation.WholeText

/-!
# Reading fields

A field of a record is read from a document with some tolerance: a number may be given as a text, a
truth value as `0`, `1` or a word, a whole number as a fraction with nothing behind the point.
Each reader says which problem it has with a value that it does not accept.
-/

namespace PriceBoard

/-- Reads a value, or says what is wrong with it. -/
abbrev Reader (α : Type) : Type :=
  Json → Except Problem α

namespace Reader

variable {α : Type}

/-! ## Texts -/

/-- A text as it is spelled. -/
def spelling : Reader Spelling
  | .string value => .ok value
  | _ => .error .noText

/-- A text. -/
def text : Reader String := fun value =>
  (spelling value).map Spelling.text

/-- A value, or null for none. -/
def optional (read : Reader α) : Reader (Option α)
  | .null => .ok none
  | value => (read value).map some

/-! ## Whole numbers -/

/-- The whole number that the double is. -/
def integerOfDouble (value : Float) : Except Problem Int :=
  if !Double.isFinite value then .error .notFinite
  else
    match Double.toInt? value with
    | none => .error .fractionalInteger
    | some whole => if twoPower 63 ≤ whole.natAbs then .error .oversizedInteger else .ok whole

/-- The whole number that the numeral is. -/
def integerOfNumeral (value : Numeral) : Except Problem Int :=
  match value.truncate? with
  | none => .error .oversizedInteger
  | some whole =>
    if 0 ≤ value.exponent || value.coefficient % tenPower value.exponent.natAbs == 0 then
      .ok whole
    else .error .fractionalInteger

/-- The whole number that the text spells. -/
def integerOfText (written : String) : Except Problem Int :=
  if isOversized written then .error .oversizedInteger
  else (integerOfText? written).elim (.error .unreadableInteger) .ok

/-- A whole number. -/
def integer : Reader Int
  | .integer value => .ok value
  | .bool value => .ok (if value then 1 else 0)
  | .double value => integerOfDouble value
  | .decimal (.finite number) => integerOfNumeral number
  | .decimal _ => .error .notFinite
  | .string written => integerOfText written.text
  | _ => .error .noInteger

/-- A whole number above zero. -/
def positiveInteger : Reader Nat := fun value => do
  let number ← integer value
  if 0 < number then .ok number.toNat else .error .notAboveZero

/-! ## Truth values -/

/-- The words for true. -/
def trueWords : List String :=
  ["1", "on", "t", "true", "y", "yes"]

/-- The words for false. -/
def falseWords : List String :=
  ["0", "off", "f", "false", "n", "no"]

/-- The truth value that a whole number stands for. -/
def truthOfInt (value : Int) : Except Problem Bool :=
  if value = 0 then .ok false else if value = 1 then .ok true else .error .unreadableBoolean

/-- Whether the number fits into 64 bits with a sign. -/
def fitsWord (value : Int) : Bool :=
  -(twoPower 63 : Int) ≤ value && value < twoPower 63

/-- A truth value.  A number that is too large or no whole one stands for none. -/
def truth : Reader Bool
  | .bool value => .ok value
  | .integer value => if fitsWord value then truthOfInt value else .error .noBoolean
  | .double value =>
    match integerOfDouble value with
    | .ok whole => truthOfInt whole
    | .error _ => .error .noBoolean
  | .decimal (.finite number) => if number.isZero then .ok false else .error .noBoolean
  | .string value =>
    let word := String.ofList (value.text.toList.map Char.toLower)
    if trueWords.contains word then .ok true
    else if falseWords.contains word then .ok false
    else .error .unreadableBoolean
  | _ => .error .noBoolean

/-! ## Doubles -/

/-- A double. -/
def double : Reader Float
  | .double value => .ok value
  | .integer value => (Double.ofInt? value).elim (.error .noNumber) .ok
  | .bool value => .ok (Double.nearest false (if value then 1 else 0) 1)
  | .decimal (.finite number) => .ok (Double.ofNumeral number)
  | .decimal (.infinity negative) => .ok (Double.infinity negative)
  | .decimal (.nan _ _ _) => .ok Double.nan
  | .string written => (Double.ofAsciiText? written.text).elim (.error .unreadableNumber) .ok
  | _ => .error .noNumber

/-- A double above zero. -/
def positiveDouble : Reader Float := fun value => do
  let number ← double value
  if Double.isAboveZero number then .ok number else .error .notAboveZero

/-! ## Decimals -/

/-- The numeral, if the decimal is one. -/
def finite (value : Decimal) : Except Problem Numeral :=
  value.numeral?.elim (.error .notFinite) .ok

/-- A finite decimal.  A double is taken as the decimal of its shortest text. -/
def decimal : Reader Numeral
  | .decimal value => finite value
  | .integer value => .ok (.ofInt value)
  | .double value =>
    match Decimal.ofText (Double.text value) with
    | .ok value => finite value
    | .error _ => .error .unreadableDecimal
  | .string written =>
    match Decimal.ofText written.text with
    | .ok value => finite value
    | .error _ => .error .unreadableDecimal
  | _ => .error .noDecimal

/-! ## Fields of a record -/

/-- A field that must be there. -/
def required (fields : Json.Fields) (name : String) (read : Reader α) : Checked α :=
  match Json.member? name fields with
  | none => (Checked.here (.object fields) (.error .missing)).under (.field name)
  | some value => (Checked.here value (read value)).under (.field name)

/-- A field that may be left out. -/
def withDefault (fields : Json.Fields) (name : String) (read : Reader α) (absent : α) :
    Checked α :=
  match Json.member? name fields with
  | none => .ok absent
  | some value => (Checked.here value (read value)).under (.field name)

end Reader

end PriceBoard
