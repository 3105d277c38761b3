/-!
# Spelled texts

A document may spell a character by a pair of numbers, and nothing keeps it from spelling one half
of a pair only.  Such a half is no character.  A `Spelling` is a text that may hold halves that
stand alone; it can be compared and shown like any other text.
-/

namespace PriceBoard

/-! ## Halves of pairs -/

namespace Text

/-- Whether the number is the first half of a pair. -/
def isHighHalf (code : Nat) : Bool :=
  0xD800 ≤ code && code < 0xDC00

/-- Whether the number is the second half of a pair. -/
def isLowHalf (code : Nat) : Bool :=
  0xDC00 ≤ code && code < 0xE000

/-- The character that a pair of halves stands for. -/
def pairLetter (high low : Nat) : Char :=
  Char.ofNat (0x10000 + (high - 0xD800) * 0x400 + (low - 0xDC00))

end Text

/-! ## Spellings -/

/-- A letter of a spelled text. -/
inductive Letter where
  | character (value : Char)
  /-- Half of a pair, by its number, that stands alone. -/
  | half (code : Nat)
  deriving DecidableEq

namespace Letter

/-- The letter with the number. -/
def ofCode (code : Nat) : Letter :=
  if Text.isHighHalf code || Text.isLowHalf code then half code else character (Char.ofNat code)

/-- The character that the letter is. -/
def character? : Letter → Option Char
  | character value => some value
  | half _ => none

/-- The character that is shown for the letter. -/
def shown : Letter → Char
  | character value => value
  | half _ => '\uFFFD'

/-- Whether the letter is half of a pair. -/
def isHalf : Letter → Bool
  | character _ => false
  | half _ => true

end Letter

/-- Halves of pairs that stand alone, one behind the other. -/
structure Halves where
  position : Nat
  /-- The code of the first one. -/
  first : Nat
  count : Nat

/-- A text that may hold halves of pairs that stand alone. -/
structure Spelling where
  letters : List Letter
  deriving DecidableEq

namespace Spelling

/-- The spelling of a text. -/
def ofText (text : String) : Spelling :=
  ⟨text.toList.map .character⟩

instance : Coe String Spelling :=
  ⟨ofText⟩

/-- The text that is spelled, if no half stands alone. -/
def text? (spelling : Spelling) : Option String :=
  (spelling.letters.mapM Letter.character?).map String.ofList

/-- The text that is spelled, with the replacement character for each half that stands alone. -/
def text (spelling : Spelling) : String :=
  String.ofList (spelling.letters.map Letter.shown)

@[simp] theorem text_ofText (text : String) : (ofText text).text = text := by
  simp [Spelling.text, ofText, Function.comp_def, Letter.shown]

/-- The spelling with another one behind it. -/
def append (first second : Spelling) : Spelling :=
  ⟨first.letters ++ second.letters⟩

instance : Append Spelling :=
  ⟨append⟩

/-- Whether nothing is spelled. -/
def isEmpty (spelling : Spelling) : Bool :=
  spelling.letters.isEmpty

/-- The first halves among the letters; `position` is the one of the first letter. -/
def firstHalves? (position : Nat) : List Letter → Option Halves
  | [] => none
  | .character _ :: rest => firstHalves? (position + 1) rest
  | .half code :: rest => some ⟨position, code, (rest.takeWhile Letter.isHalf).length + 1⟩

/-- The first halves that stand alone. -/
def halves? (spelling : Spelling) : Option Halves :=
  firstHalves? 0 spelling.letters

theorem firstHalves?_map_character (position : Nat) (letters : List Char) :
    firstHalves? position (letters.map .character) = none := by
  induction letters generalizing position with
  | nil => rfl
  | cons letter others ih => exact ih (position + 1)

@[simp] theorem halves?_ofText (text : String) : (ofText text).halves? = none :=
  firstHalves?_map_character 0 text.toList

end Spelling

end PriceBoard
