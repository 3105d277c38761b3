import PriceBoard.Text.Composition.Pairs
import PriceBoard.Text.Mark

/-!
# Composed words

A letter with marks can be written in several ways.  In the composed form, whatever can be written
as one character is, and the other marks follow their letter in the order of their classes.
`isComposed` tells whether a word has that form: it takes the word apart, orders the marks and puts
everything together again.

## Strategy

Three kinds of characters are composed.  Most are listed with the pair they stand for; Korean
syllables follow from their place in a block; and the characters in `replacedRanges` never occur in
a composed word, as there is another way to write them.
-/

namespace PriceBoard.Text

/-- Ranges `(first, length)` of characters that do not occur in composed words. -/
def replacedRanges : List (Nat × Nat) :=
  [
    (0x340, 2), (0x343, 2), (0x374, 1), (0x37E, 1), (0x387, 1), (0x958, 8), (0x9DC, 2), (0x9DF, 1),
    (0xA33, 1), (0xA36, 1), (0xA59, 3), (0xA5E, 1), (0xB5C, 2), (0xF43, 1), (0xF4D, 1), (0xF52, 1),
    (0xF57, 1), (0xF5C, 1), (0xF69, 1), (0xF73, 1), (0xF75, 2), (0xF78, 1), (0xF81, 1), (0xF93, 1),
    (0xF9D, 1), (0xFA2, 1), (0xFA7, 1), (0xFAC, 1), (0xFB9, 1), (0x1F71, 1), (0x1F73, 1),
    (0x1F75, 1), (0x1F77, 1), (0x1F79, 1), (0x1F7B, 1), (0x1F7D, 1), (0x1FBB, 1), (0x1FBE, 1),
    (0x1FC9, 1), (0x1FCB, 1), (0x1FD3, 1), (0x1FDB, 1), (0x1FE3, 1), (0x1FEB, 1), (0x1FEE, 2),
    (0x1FF9, 1), (0x1FFB, 1), (0x1FFD, 1), (0x2000, 2), (0x2126, 1), (0x212A, 2), (0x2329, 2),
    (0x2ADC, 1), (0xF900, 270), (0xFA10, 1), (0xFA12, 1), (0xFA15, 10), (0xFA20, 1), (0xFA22, 1),
    (0xFA25, 2), (0xFA2A, 68), (0xFA70, 106), (0xFB1D, 1), (0xFB1F, 1), (0xFB2A, 13), (0xFB38, 5),
    (0xFB3E, 1), (0xFB40, 2), (0xFB43, 2), (0xFB46, 9), (0x1D15E, 7), (0x1D1BB, 6), (0x2F800, 542)
  ]

/-! ## Korean syllables -/

/-- The first syllable. -/
def firstSyllable : Nat :=
  0xAC00

/-- The number of syllables. -/
def syllableCount : Nat :=
  11172

/-- The number of syllables with the same start and vowel, one without an end among them. -/
def endingCount : Nat :=
  28

/-- The starts, the vowels and the ends of syllables: what is in front of the first one. -/
def firstStart : Nat :=
  0x1100

/-- The first vowel. -/
def firstVowel : Nat :=
  0x1161

/-- What is in front of the first end. -/
def noEnding : Nat :=
  0x11A7

/-- The number of vowels. -/
def vowelCount : Nat :=
  21

/-- The number of starts. -/
def startCount : Nat :=
  19

/-- The parts of a syllable. -/
def syllableParts? (code : Nat) : Option (Nat × Nat) :=
  if firstSyllable ≤ code && code < firstSyllable + syllableCount then
    let place := code - firstSyllable
    let ending := place % endingCount
    if ending = 0 then
      some (firstStart + place / endingCount / vowelCount,
        firstVowel + place / endingCount % vowelCount)
    else some (code - ending, noEnding + ending)
  else none

/-- The syllable of two parts. -/
def syllable? (first second : Nat) : Option Nat :=
  if firstStart ≤ first && first < firstStart + startCount && firstVowel ≤ second &&
      second < firstVowel + vowelCount then
    some (firstSyllable +
      ((first - firstStart) * vowelCount + (second - firstVowel)) * endingCount)
  else if firstSyllable ≤ first && first < firstSyllable + syllableCount &&
      (first - firstSyllable) % endingCount = 0 && noEnding < second &&
      second < noEnding + endingCount then
    some (first + (second - noEnding))
  else none

/-! ## Pairs -/

/-- The pair that a character is composed of. -/
def parts? (code : Nat) : Option (Nat × Nat) :=
  match syllableParts? code with
  | some parts => some parts
  | none =>
    pairTables.findSome? fun pairs => (pairs.find? fun pair => pair.1 = code).map Prod.snd

/-- The character that a pair composes. -/
def composed? (first second : Nat) : Option Nat :=
  match syllable? first second with
  | some code => some code
  | none =>
    pairTables.findSome? fun pairs =>
      (pairs.find? fun pair => pair.2.1 = first && pair.2.2 = second).map Prod.fst

/-- How often a character can be taken apart. -/
def deepestPair : Nat :=
  4

/-- The character taken apart, at most so often. -/
def takeApart : Nat → Nat → List Nat
  | 0, code => [code]
  | depth + 1, code =>
    match parts? code with
    | none => [code]
    | some (first, second) => takeApart depth first ++ [second]

/-! ## Order of marks -/

/-- Puts a character in front of an ordered word: a mark moves behind marks of lower classes. -/
def insertMark (code : Nat) : List Nat → List Nat
  | [] => [code]
  | next :: rest =>
    if combiningClass next ≠ 0 && combiningClass next < combiningClass code then
      next :: insertMark code rest
    else code :: next :: rest

/-- The word with its marks in the order of their classes. -/
def orderMarks (codes : List Nat) : List Nat :=
  codes.foldr insertMark []

/-! ## Composition -/

/-- Composes what follows a letter with it, where nothing stands in between; `marks` are the ones
that stay behind the letter, the last one first. -/
def composeFrom (letter : Nat) (marks : List Nat) : List Nat → List Nat
  | [] => letter :: marks.reverse
  | code :: rest =>
    let isFree := marks.head?.all fun mark => combiningClass mark < combiningClass code
    match if isFree then composed? letter code else none with
    | some composed => composeFrom composed marks rest
    | none =>
      if combiningClass code = 0 then letter :: marks.reverse ++ composeFrom code [] rest
      else composeFrom letter (code :: marks) rest

/-- Composes the word.  Marks in front of the first letter stay as they are. -/
def compose : List Nat → List Nat
  | [] => []
  | code :: rest =>
    if combiningClass code = 0 then composeFrom code [] rest else code :: compose rest

/-- Whether the word is composed. -/
def isComposed (codes : List Nat) : Bool :=
  codes.all (fun code => !replacedRanges.any (inRange code)) &&
    compose (orderMarks (codes.flatMap (takeApart deepestPair))) = codes

end PriceBoard.Text
