import PriceBoard.DomainName.Direction
import PriceBoard.DomainName.Joining
import PriceBoard.DomainName.Letter
import PriceBoard.DomainName.Script
import PriceBoard.Text.Composition
import PriceBoard.Text.Quoted

/-!
# Labels

A domain name consists of labels.  A label is a composed word of letters, digits, marks and hyphens.
Hyphens stand inside, and not both in the third and in the fourth place; no mark comes first; and
some characters are good only beside others.  A label with letters that are written from right to
left starts and ends with such letters or with digits, and holds none of the other kind.

`labelFault?` tells what is wrong with a word, given by the codes of its characters.  Positions
count from one.
-/

namespace PriceBoard.DomainName

open Text

/-- Why a word is no label. -/
inductive LabelFault where
  | empty
  | uncomposed
  /-- Hyphens in the third and the fourth place. -/
  | doubledHyphen
  /-- A hyphen in the first or in the last place. -/
  | outerHyphen
  | leadingMark
  | badLetter (code position : Nat)
  /-- Between its neighbours the joiner joins nothing. -/
  | badJoiner (code position : Nat)
  /-- The character is not good beside its neighbours. -/
  | badNeighbours (code position : Nat)
  | unknownDirection (position : Nat)
  | badFirstDirection
  /-- The label is written from the right, or else from the left, and the character is not. -/
  | badDirection (fromRight : Bool) (position : Nat)
  | mixedDigits
  | badLastDirection
  deriving DecidableEq

/-! ## Single characters -/

/-- The hyphen. -/
def hyphen : Nat :=
  0x2D

/-- The sign that keeps letters apart which would join. -/
def separatingJoiner : Nat :=
  0x200C

/-- The sign that joins letters which would not join. -/
def bindingJoiner : Nat :=
  0x200D

/-- Whether the letters in front, the nearest one first, join what follows. -/
def joinsNext (before : List Nat) : Bool :=
  ((before.map Joining.of).find? (· ≠ .passedOver)).any fun joining =>
    joining = .onLeft || joining = .onBothSides

/-- Whether the letters behind join what precedes. -/
def joinsPrevious (after : List Nat) : Bool :=
  ((after.map Joining.of).find? (· ≠ .passedOver)).any fun joining =>
    joining = .onRight || joining = .onBothSides

/-- Whether the joiner is good between the characters: behind a sign that silences a vowel, or, for
the separating one, between letters that would join. -/
def isJoinerPlaced (code : Nat) (before after : List Nat) : Bool :=
  before.head?.any (combiningClass · = silencerClass) ||
    (code = separatingJoiner && before.head?.any (fun letter => (Direction.of? letter).isSome) &&
      joinsNext before && joinsPrevious after)

/-- Whether the digit is one of the Arabic digits. -/
def isArabicDigit (code : Nat) : Bool :=
  inRange code (0x660, 10)

/-- Whether the digit is one of the Arabic digits of the East. -/
def isEasternDigit (code : Nat) : Bool :=
  inRange code (0x6F0, 10)

/-- Whether a character that depends on its neighbours is good among the others of the label; no
answer for any other character. -/
def isPlaced? (label before : List Nat) (code : Nat) (after : List Nat) : Option Bool :=
  if code = 0xB7 then some (before.head? = some 0x6C && after.head? = some 0x6C)
  else if code = 0x375 then some (after.head?.any isGreek)
  else if code = 0x5F3 || code = 0x5F4 then some (before.head?.any isHebrew)
  else if code = 0x30FB then some (label.any isJapanese)
  else if isArabicDigit code then some (!label.any isEasternDigit)
  else if isEasternDigit code then some (!label.any isArabicDigit)
  else none

/-- What is wrong with a character of the label. -/
def letterFault? (label before : List Nat) (code : Nat) (after : List Nat) : Option LabelFault :=
  let position := before.length + 1
  if isLetter code then none
  else if code = separatingJoiner || code = bindingJoiner then
    if isJoinerPlaced code before after then none else some (.badJoiner code position)
  else
    match isPlaced? label before code after with
    | some true => none
    | some false => some (.badNeighbours code position)
    | none => some (.badLetter code position)

/-- What is wrong with the first bad one of the characters that follow the given ones, the nearest
one first. -/
def lettersFault? (label before : List Nat) : List Nat → Option LabelFault
  | [] => none
  | code :: after =>
    match letterFault? label before code after with
    | some fault => some fault
    | none => lettersFault? label (code :: before) after

/-! ## Directions -/

/-- Whether the character makes its label one that has to be checked. -/
def Direction.isFromRight (direction : Direction) : Bool :=
  direction = .right || direction = .arabicLetter || direction = .arabicDigit

/-- Whether the character is a digit. -/
def Direction.isDigit (direction : Direction) : Bool :=
  direction = .digit || direction = .arabicDigit

/-- Whether a label from right to left may end with the character. -/
def Direction.canEnd (direction : Direction) : Bool :=
  direction.isFromRight || direction.isDigit

/-- What is wrong in a label from right to left; `digits` is the kind of digits found so far. -/
def fromRightFault? (position : Nat) (digits : Option Direction) :
    List Direction → Option LabelFault
  | [] => none
  | direction :: rest =>
    if direction = .left then some (.badDirection true position)
    else if direction.isDigit then
      if digits.all (· = direction) then fromRightFault? (position + 1) (some direction) rest
      else some .mixedDigits
    else fromRightFault? (position + 1) digits rest

/-- What is wrong at the end of a label from right to left. -/
def endFault? (directions : List Direction) : Option LabelFault :=
  if (directions.reverse.find? (· ≠ .mark)).any Direction.canEnd then none
  else some .badLastDirection

/-- What is wrong with the directions of a label.  There is nothing to check unless some of them are
from the right. -/
def directionsFault? (directions : List Direction) : Option LabelFault :=
  match directions.findIdx? Direction.isFromRight with
  | none => none
  | some index =>
    match directions.head? with
    | some .right | some .arabicLetter =>
      (fromRightFault? 1 none directions).or (endFault? directions)
    | some .left => some (.badDirection false (index + 1))
    | _ => some .badFirstDirection

/-- What is wrong with how the characters of a label are written. -/
def directionFault? (label : List Nat) : Option LabelFault :=
  match label.findIdx? fun code => (Direction.of? code).isNone with
  | some index => some (.unknownDirection (index + 1))
  | none => directionsFault? (label.filterMap Direction.of?)

/-! ## Labels -/

/-- What is wrong with a word as a label. -/
def labelFault? (label : List Nat) : Option LabelFault :=
  if label.isEmpty then some .empty
  else if !isComposed label then some .uncomposed
  else if (label.drop 2).take 2 = [hyphen, hyphen] then some .doubledHyphen
  else if label.head? = some hyphen || label.getLast? = some hyphen then some .outerHyphen
  else if label.head?.any isMark then some .leadingMark
  else (lettersFault? label [] label).or (directionFault? label)

/-! ## Messages -/

/-- The code of a character, with at least four digits. -/
def codeText (code : Nat) : String :=
  let width := if code < 0x10000 then 4 else if code < 0x100000 then 5 else 6
  "U+" ++ String.ofList ((hexWord width code).map Char.toUpper)

/-- The label, quoted. -/
def quoteLabel (label : List Nat) : String :=
  (Spelling.mk (label.map Letter.ofCode)).quoted

/-- What is wrong with the label, in words. -/
def LabelFault.message (label : List Nat) : LabelFault → String
  | empty => "Empty Label"
  | uncomposed => "Label must be in Normalization Form C"
  | doubledHyphen => "Label has disallowed hyphens in 3rd and 4th position"
  | outerHyphen => "Label must not start or end with a hyphen"
  | leadingMark => "Label begins with an illegal combining character"
  | badLetter code position =>
    "Codepoint " ++ codeText code ++ " at position " ++ toString position ++ " of " ++
      quoteLabel label ++ " not allowed"
  | badJoiner code position =>
    "Unknown codepoint adjacent to joiner " ++ codeText code ++ " at position " ++
      toString position ++ " in " ++ quoteLabel label
  | badNeighbours code position =>
    "Codepoint " ++ codeText code ++ " not allowed at position " ++ toString position ++ " in " ++
      quoteLabel label
  | unknownDirection position =>
    "Unknown directionality in label " ++ quoteLabel label ++ " at position " ++ toString position
  | badFirstDirection =>
    "First codepoint in label " ++ quoteLabel label ++ " must be directionality L, R or AL"
  | badDirection fromRight position =>
    "Invalid direction for codepoint at position " ++ toString position ++ " in a " ++
      (if fromRight then "right-to-left" else "left-to-right") ++ " label"
  | mixedDigits => "Can not mix numeral types in a right-to-left label"
  | badLastDirection => "Label ends with illegal codepoint directionality"

end PriceBoard.DomainName
