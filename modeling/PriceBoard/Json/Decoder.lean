import PriceBoard.Json.Value
import PriceBoard.Decimal.Parser
import PriceBoard.Double.Parser
import PriceBoard.Text.Hexadecimal

/-!
# Reading documents

The grammar is the usual one, with `NaN`, `Infinity` and `-Infinity` as further numbers.  What
breaks the grammar is reported with the position of the first character that cannot be accepted;
a text without an end is reported where it starts.  Whole numbers may have at most 4300 digits, and
arrays and objects may be nested to a limited depth only.  Halves of pairs that stand alone may
occur inside texts, like any other letter.

How numbers with a fraction or an exponent are read is a parameter: exactly, as decimals, for the
answers of providers, and as doubles for other documents.

## Strategy

Every reader takes the rest of the text, as a list of letters, together with the position where it
starts, and returns what it has read, the new position and the new rest.  Arrays and objects are
read by recursion on a bound that twice the length of the text satisfies, because between two calls
at least every second one takes a character.
-/

namespace PriceBoard.Json

/-! ## What can go wrong -/

/-- How a text breaks the grammar. -/
inductive Problem where
  | valueExpected
  | nameExpected
  | colonExpected
  | commaExpected
  | extraText
  | unterminatedText
  | unknownEscape
  | brokenUnicodeEscape
  | controlCharacter
  | byteOrderMark
  deriving DecidableEq

/-- Why a document cannot be read. -/
inductive DecodeFault where
  /-- The grammar is broken at the position. -/
  | malformed (problem : Problem) (position : Nat)
  /-- A whole number has too many digits. -/
  | longInteger (digits : Nat)
  /-- Arrays and objects are nested too deep; the innermost is an object or an array. -/
  | tooDeep (inObject : Bool)
  /-- A number is out of the range of decimals. -/
  | number (cause : Signal)
  deriving DecidableEq

/-- What has been read, the position after it and the rest of the text. -/
abbrev Read (α : Type) : Type :=
  Except DecodeFault (α × Nat × List Letter)

/-- Broken at the position. -/
def malformed {α : Type} (problem : Problem) (position : Nat) : Except DecodeFault α :=
  .error (.malformed problem position)

/-! ## Blanks -/

/-- Whether the letter may stand between the parts of a document. -/
def isGap : Letter → Bool
  | .character letter => letter = ' ' || letter = '\t' || letter = '\n' || letter = '\r'
  | .half _ => false

/-- The position and the rest after the blanks at the front. -/
def skipGaps : Nat → List Letter → Nat × List Letter
  | position, [] => (position, [])
  | position, letter :: rest =>
    if isGap letter then skipGaps (position + 1) rest else (position, letter :: rest)

/-! ## Texts -/

/-- The value of a hexadecimal digit. -/
def digitValue? (letter : Letter) : Option Nat :=
  letter.character?.bind Text.hexValue?

/-- The number that four hexadecimal digits spell. -/
def hexCode? (a b c d : Letter) : Option Nat := do
  return 0x1000 * (← digitValue? a) + 0x100 * (← digitValue? b) + 0x10 * (← digitValue? c) +
    (← digitValue? d)

/-- The character that a letter after a backslash stands for. -/
def escaped? : Char → Option Char
  | '"' => some '"'
  | '\\' => some '\\'
  | '/' => some '/'
  | 'b' => some '\x08'
  | 'f' => some '\x0c'
  | 'n' => some '\n'
  | 'r' => some '\r'
  | 't' => some '\t'
  | _ => none

/-- Whether texts may hold the letter as it stands. -/
def isPlainLetter : Letter → Bool
  | .character letter => 0x20 ≤ letter.toNat
  | .half _ => true

/-- Reads a text after its opening mark, which stands at `start`; `letters` are the ones read so
far, the last one first. -/
def textTail (start : Nat) : Nat → List Letter → List Letter → Read Spelling
  | _, _, [] => malformed .unterminatedText start
  | position, letters, .character '"' :: rest => .ok (⟨letters.reverse⟩, position + 1, rest)
  | _, _, [.character '\\'] => malformed .unterminatedText start
  | position, letters, .character '\\' :: .character 'u' :: a :: b :: c :: d ::
      .character '\\' :: .character 'u' :: e :: f :: g :: h :: next :: rest =>
    match hexCode? a b c d with
    | none => malformed .brokenUnicodeEscape (position + 1)
    | some high =>
      if Text.isHighHalf high then
        match hexCode? e f g h with
        | none => malformed .brokenUnicodeEscape (position + 7)
        | some low =>
          if Text.isLowHalf low then
            textTail start (position + 12) (.character (Text.pairLetter high low) :: letters)
              (next :: rest)
          else
            textTail start (position + 6) (.ofCode high :: letters)
              (.character '\\' :: .character 'u' :: e :: f :: g :: h :: next :: rest)
      else
        textTail start (position + 6) (.ofCode high :: letters)
          (.character '\\' :: .character 'u' :: e :: f :: g :: h :: next :: rest)
  | position, letters, .character '\\' :: .character 'u' :: a :: b :: c :: d :: next :: rest =>
    match hexCode? a b c d with
    | none => malformed .brokenUnicodeEscape (position + 1)
    | some code => textTail start (position + 6) (.ofCode code :: letters) (next :: rest)
  | position, _, .character '\\' :: .character 'u' :: _ =>
    malformed .brokenUnicodeEscape (position + 1)
  | position, letters, .character '\\' :: letter :: rest =>
    match letter.character?.bind escaped? with
    | none => malformed .unknownEscape position
    | some meant => textTail start (position + 2) (.character meant :: letters) rest
  | position, letters, letter :: rest =>
    if isPlainLetter letter then textTail start (position + 1) (letter :: letters) rest
    else malformed .controlCharacter position

/-! ## Numbers -/

/-- The whole part of a number: a zero, or digits of which the first is none. -/
def wholeDigits : List Char → List Char
  | '0' :: _ => ['0']
  | word => word.takeWhile Decimal.isDigit

/-- The letters of a fraction at the front: a point and at least one digit. -/
def fractionLetters : List Char → List Char
  | '.' :: rest =>
    let digits := rest.takeWhile Decimal.isDigit
    if digits.isEmpty then [] else '.' :: digits
  | _ => []

/-- The letters of an exponent at the front: `e`, maybe a sign, and at least one digit. -/
def exponentLetters : List Char → List Char
  | mark :: rest =>
    if mark = 'e' || mark = 'E' then
      let sign := rest.take 1 |>.filter fun letter => letter = '-' || letter = '+'
      let digits := (rest.drop sign.length).takeWhile Decimal.isDigit
      if digits.isEmpty then [] else mark :: sign ++ digits
    else []
  | [] => []

/-- The longest number at the front: its letters, and whether it has a fraction or an exponent. -/
def numberLetters (word : List Char) : List Char × Bool :=
  let sign := word.take 1 |>.filter (· = '-')
  let rest := word.drop sign.length
  let whole := wholeDigits rest
  if whole.isEmpty then ([], false)
  else
    let afterWhole := rest.drop whole.length
    let fraction := fractionLetters afterWhole
    let exponent := exponentLetters (afterWhole.drop fraction.length)
    (sign ++ whole ++ fraction ++ exponent, !(fraction.isEmpty && exponent.isEmpty))

/-- Whether numbers may hold the character. -/
def isNumberLetter (letter : Char) : Bool :=
  Decimal.isDigit letter || letter = '-' || letter = '+' || letter = '.' || letter = 'e' ||
    letter = 'E'

/-- The characters at the front of the text of which numbers consist. -/
def numberFront : List Letter → List Char
  | .character letter :: rest => if isNumberLetter letter then letter :: numberFront rest else []
  | _ => []

/-- How many digits a whole number may have. -/
def longestInteger : Nat :=
  4300

/-- The whole number that the letters spell. -/
def integerOf (letters : List Char) : Except DecodeFault Json :=
  let (negative, digits) := Decimal.cutSign letters
  if longestInteger < digits.length then .error (.longInteger digits.length)
  else
    let magnitude : Int := Decimal.numberOf digits
    .ok (.integer (if negative then -magnitude else magnitude))

/-- Reads a number at the front of the text. -/
def number (fraction : String → Except Signal Json) (position : Nat) (word : List Letter) :
    Read Json :=
  let (letters, isFraction) := numberLetters (numberFront word)
  if letters.isEmpty then malformed .valueExpected position
  else
    let content : Except DecodeFault Json :=
      if isFraction then (fraction (String.ofList letters)).mapError .number
      else integerOf letters
    content.map fun value => (value, position + letters.length, word.drop letters.length)

/-- The words with a fixed meaning. -/
def namedValues : List (String × Json) :=
  [("null", .null),
    ("true", .bool true),
    ("false", .bool false),
    ("NaN", .double Double.nan),
    ("Infinity", .double (Double.infinity false)),
    ("-Infinity", .double (Double.infinity true))]

/-- Whether the text starts with the word. -/
def startsWith (name : String) (word : List Letter) : Bool :=
  (name.toList.map Letter.character).isPrefixOf word

/-- Reads a word with a fixed meaning, or a number. -/
def scalar (fraction : String → Except Signal Json) (position : Nat) (word : List Letter) :
    Read Json :=
  match namedValues.find? fun (name, _) => startsWith name word with
  | some (name, meant) => .ok (meant, position + name.length, word.drop name.length)
  | none => number fraction position word

/-! ## Arrays and objects -/

mutual

/-- Reads one value. -/
def value (fraction : String → Except Signal Json) :
    (bound depth position : Nat) → List Letter → Read Json
  | 0, _, position, _ => malformed .valueExpected position
  | _ + 1, _, position, .character '"' :: rest =>
    (textTail position (position + 1) [] rest).map fun (text, after) => (.string text, after)
  | bound + 1, depth, position, .character '[' :: rest =>
    match depth with
    | 0 => .error (.tooDeep false)
    | depth + 1 =>
      match skipGaps (position + 1) rest with
      | (position, .character ']' :: rest) => .ok (.array [], position + 1, rest)
      | (position, rest) => items fraction bound depth position [] rest
  | bound + 1, depth, position, .character '\x7b' :: rest =>
    match depth with
    | 0 => .error (.tooDeep true)
    | depth + 1 =>
      match skipGaps (position + 1) rest with
      | (position, .character '\x7d' :: rest) => .ok (.object [], position + 1, rest)
      | (position, rest) => members fraction bound depth position [] rest
  | _ + 1, _, position, word => scalar fraction position word
termination_by structural bound => bound

/-- Reads the items of an array up to its end; `found` are the ones read so far, the last one
first. -/
def items (fraction : String → Except Signal Json) :
    (bound depth position : Nat) → List Json → List Letter → Read Json
  | 0, _, position, _, _ => malformed .valueExpected position
  | bound + 1, depth, position, found, word =>
    match value fraction bound depth position word with
    | .error fault => .error fault
    | .ok (item, position, rest) =>
      match skipGaps position rest with
      | (position, .character ']' :: rest) =>
        .ok (.array (item :: found).reverse, position + 1, rest)
      | (position, .character ',' :: rest) =>
        let (position, rest) := skipGaps (position + 1) rest
        items fraction bound depth position (item :: found) rest
      | (position, _) => malformed .commaExpected position
termination_by structural bound => bound

/-- Reads the fields of an object up to its end; `found` are the ones read so far. -/
def members (fraction : String → Except Signal Json) :
    (bound depth position : Nat) → Fields → List Letter → Read Json
  | 0, _, position, _, _ => malformed .nameExpected position
  | bound + 1, depth, position, found, .character '"' :: word =>
    match textTail position (position + 1) [] word with
    | .error fault => .error fault
    | .ok (name, position, rest) =>
      match skipGaps position rest with
      | (position, .character ':' :: rest) =>
        let (position, rest) := skipGaps (position + 1) rest
        match value fraction bound depth position rest with
        | .error fault => .error fault
        | .ok (content, position, rest) =>
          let found := setEntry name content found
          match skipGaps position rest with
          | (position, .character '\x7d' :: rest) => .ok (.object found, position + 1, rest)
          | (position, .character ',' :: rest) =>
            let (position, rest) := skipGaps (position + 1) rest
            members fraction bound depth position found rest
          | (position, _) => malformed .commaExpected position
      | (position, _) => malformed .colonExpected position
  | _ + 1, _, position, _, _ => malformed .nameExpected position
termination_by structural bound => bound

end

/-! ## Documents -/

/-- Reads the letters of a document in which arrays and objects are nested to the depth at most. -/
def decodeLetters (fraction : String → Except Signal Json) (deepest : Nat) (word : List Letter) :
    Except DecodeFault Json :=
  let (position, rest) := skipGaps 0 word
  match value fraction (2 * word.length + 2) deepest position rest with
  | .error fault => .error fault
  | .ok (content, position, rest) =>
    match skipGaps position rest with
    | (_, []) => .ok content
    | (position, _) => malformed .extraText position

/-- Reads a document with exact decimals, nested to the depth at most.  A byte order mark does not
belong to a text. -/
def decodeExact (deepest : Nat) (text : String) : Except DecodeFault Json :=
  let readFraction fraction := (Decimal.ofText fraction).map Json.decimal
  match (Spelling.ofText text).letters with
  | .character '\uFEFF' :: _ => malformed .byteOrderMark 0
  | word => decodeLetters readFraction deepest word

/-- Reads a document whose fractions are doubles, nested to the depth at most. -/
def decode (deepest : Nat) (word : List Letter) : Except DecodeFault Json :=
  decodeLetters (fun fraction => .ok ((Double.ofText? fraction).elim .null .double)) deepest word

/-! ## Messages -/

/-- The line and the column of the position, both counted from one. -/
def lineAndColumn (text : String) (position : Nat) : Nat × Nat :=
  let before := text.toList.take position
  (before.count '\n' + 1, (before.reverse.takeWhile (· ≠ '\n')).length + 1)

/-- What the grammar asks for. -/
def Problem.message : Problem → String
  | valueExpected => "Expecting value"
  | nameExpected => "Expecting property name enclosed in double quotes"
  | colonExpected => "Expecting ':' delimiter"
  | commaExpected => "Expecting ',' delimiter"
  | extraText => "Extra data"
  | unterminatedText => "Unterminated string starting at"
  | unknownEscape => "Invalid \\escape"
  | brokenUnicodeEscape => "Invalid \\uXXXX escape"
  | controlCharacter => "Invalid control character at"
  | byteOrderMark => "Unexpected UTF-8 BOM (decode using utf-8-sig)"

/-- The problem and the place of it in the text. -/
def placedMessage (text : String) (problem : Problem) (position : Nat) : String :=
  let (line, column) := lineAndColumn text position
  s!"{problem.message}: line {line} column {column} (char {position})"

/-- That a whole number has too many digits. -/
def longIntegerMessage (digits : Nat) : String :=
  s!"Exceeds the limit ({longestInteger} digits) for integer string conversion: value has " ++
    s!"{digits} digits; use sys.set_int_max_str_digits() to increase the limit"

/-- That arrays and objects are nested too deep. -/
def tooDeepMessage (inObject : Bool) : String :=
  "maximum recursion depth exceeded while decoding a JSON " ++
    (if inObject then "object" else "array") ++ " from a unicode string"

end PriceBoard.Json
