import PriceBoard.DomainName.Label
import PriceBoard.Text.Punycode
import PriceBoard.Text.Split

/-!
# Domain names

A domain name is a row of labels with points between them; a point may follow.  Names are sent in
ASCII: a label with other characters is spelled in Punycode behind `xn--`.  `encode` gives the
spelling of a name and `decode` the labels of a spelled name, and both tell why a text is no name.
-/

namespace PriceBoard.DomainName

open Text

/-- Why a text is no domain name. -/
inductive NameFault where
  | tooLong
  | empty
  | longLabel
  | badLabel (cause : LabelFault) (label : List Nat)
  /-- Nothing follows the mark of spelled labels. -/
  | nothingSpelled
  | spelledHyphen
  | badSpelling
  deriving DecidableEq

/-- What is wrong with the name, in words. -/
def NameFault.message : NameFault → String
  | tooLong => "Domain too long"
  | empty => "Empty domain"
  | longLabel => "Label too long"
  | badLabel cause label => cause.message label
  | nothingSpelled => "Malformed A-label, no Punycode eligible content found"
  | spelledHyphen => "A-label must not end with a hyphen"
  | badSpelling => "Invalid A-label"

/-! ## Points -/

/-- The points that divide names. -/
def isPoint (letter : Char) : Bool :=
  letter = '.' || letter = '\u3002' || letter = '\uFF0E' || letter = '\uFF61'

/-- The words between the points, and whether a point follows the last one. -/
def cutLabels (name : List Char) : List (List Char) × Bool :=
  let words := splitWord '.' (name.map fun letter => if isPoint letter then '.' else letter)
  if words.getLast? = some [] then (words.dropLast, true) else (words, false)

/-! ## Labels -/

/-- The most letters of a spelled label. -/
def longestLabel : Nat :=
  63

/-- How spelled labels start. -/
def spelledStart : List Char :=
  ['x', 'n', '-', '-']

/-- Whether the word is ASCII. -/
def isAsciiWord (word : List Char) : Bool :=
  word.all fun letter => letter.toNat < 0x80

/-- The word, if it is a label. -/
def checkLabel (label : List Nat) : Except NameFault (List Nat) :=
  match labelFault? label with
  | some cause => .error (.badLabel cause label)
  | none => .ok label

/-- The label that the letters behind the mark spell. -/
def readSpelled (written : List Char) : Except NameFault (List Nat) :=
  if written.isEmpty then .error .nothingSpelled
  else if written.getLast? = some '-' then .error .spelledHyphen
  else
    match Punycode.decode? written with
    | none => .error .badSpelling
    | some label => checkLabel label

/-- The label that the word is or spells. -/
def readLabel (word : List Char) : Except NameFault (List Nat) :=
  let written := if isAsciiWord word then word.map Char.toLower else word
  if isAsciiWord written && spelledStart.isPrefixOf written then
    readSpelled (written.drop spelledStart.length)
  else checkLabel (written.map Char.toNat)

/-- The label in ASCII. -/
def writeLabel (word : List Char) : Except NameFault (List Char) := do
  let label ← readLabel word
  let written := if isAsciiWord word then word else spelledStart ++ Punycode.encode label
  if longestLabel < written.length then .error .longLabel else return written

/-! ## Names -/

/-- The most letters of a name without a point at its end. -/
def longestName : Nat :=
  253

/-- The words of a name, and whether a point follows the last one. -/
def nameWords (name : List Char) : Except NameFault (List (List Char) × Bool) :=
  if longestName + 1 < name.length then .error .tooLong
  else if name.isEmpty then .error .empty
  else .ok (cutLabels name)

/-- The name in ASCII. -/
def encode (name : List Char) : Except NameFault (List Char) := do
  let (words, hasPoint) ← nameWords name
  let labels ← words.mapM writeLabel
  let written := ['.'].intercalate (if hasPoint then labels ++ [[]] else labels)
  if longestName + (if hasPoint then 1 else 0) < written.length then .error .tooLong
  else return written

/-- The labels of a name, by the codes of their characters. -/
def decode (name : List Char) : Except NameFault (List (List Nat)) := do
  let (words, _) ← nameWords name
  words.mapM readLabel

end PriceBoard.DomainName
