/-!
# Punycode

A label of a domain name that is not ASCII is sent in ASCII letters, digits and hyphens: first come
its ASCII characters, then a hyphen, and then a number for each of the other characters.  A number
counts the steps to the next insertion, where a step leads to the next place in the word and, from
its end, to the first place with the next code.  `encode` writes a word that way, and `decode?`
reads it.

## Strategy

Numbers are written in digits of base 36, the lowest one first.  A digit below its limit ends the
number, and the limits depend on a bias that follows the size of the numbers before.  Decoding takes
one letter after the other and inserts a character whenever a number has ended.
-/

namespace PriceBoard.Text.Punycode

/-! ## Digits -/

/-- The number of digits. -/
def base : Nat :=
  36

/-- The letter of a digit: the small letters, then the figures. -/
def digitLetter (digit : Nat) : Char :=
  if digit < 26 then Char.ofNat (0x61 + digit) else Char.ofNat (0x16 + digit)

/-- The digit of a letter of either case. -/
def digitValue? (letter : Char) : Option Nat :=
  let code := letter.toNat
  if 0x61 ≤ code && code ≤ 0x7A then some (code - 0x61)
  else if 0x41 ≤ code && code ≤ 0x5A then some (code - 0x41)
  else if 0x30 ≤ code && code ≤ 0x39 then some (code - 0x16)
  else none

/-- A digit below this limit ends its number. -/
def limit (bias place : Nat) : Nat :=
  max 1 (min 26 (base * (place + 1) - bias))

theorem limit_pos (bias place : Nat) : 0 < limit bias place := by
  simp only [limit]; omega

/-! ## Bias -/

/-- The bias before the first number. -/
def firstBias : Nat :=
  72

/-- The bias that fits numbers of the size, on top of the given one. -/
def biasOf (bias size : Nat) : Nat :=
  if 455 < size then biasOf (bias + base) (size / 35) else bias + base * size / (size + 38)
termination_by size

/-- The bias after a number; `length` is that of the word with the character inserted. -/
def nextBias (isFirst : Bool) (length number : Nat) : Nat :=
  let size := if isFirst then number / 700 else number / 2
  biasOf 0 (size + size / length)

/-! ## Encoding -/

/-- The digits of a number from a place on. -/
def digits (bias place number : Nat) : List Char :=
  let least := limit bias place
  if number < least then [digitLetter number]
  else
    digitLetter (least + (number - least) % (base - least)) ::
      digits bias (place + 1) ((number - least) / (base - least))
termination_by number
decreasing_by
  have := limit_pos bias place
  have := Nat.div_le_self (number - limit bias place) (base - limit bias place)
  omega

/-- Whether the code is one of ASCII. -/
def isBasic (code : Nat) : Bool :=
  code < 0x80

/-- Where the encoding of a word stands. -/
structure Progress where
  written : List Char
  /-- The steps since the last insertion. -/
  steps : Nat
  bias : Nat
  /-- The characters that are encoded already. -/
  length : Nat

/-- Passes one character of the word while characters with the code are inserted; with `isFirst`,
none is inserted yet. -/
def Progress.pass (basics code : Nat) (progress : Progress) (letter : Nat) : Progress :=
  if letter < code then { progress with steps := progress.steps + 1 }
  else if letter = code then
    { written := progress.written ++ digits progress.bias 0 progress.steps
      steps := 0
      bias := nextBias (progress.length = basics) (progress.length + 1) progress.steps
      length := progress.length + 1 }
  else progress

/-- Encodes the characters of the word with the given codes, which ascend from `next` on. -/
def insertions (word : List Nat) (basics next : Nat) : Progress → List Nat → Progress
  | progress, [] => progress
  | progress, code :: others =>
    let reached :=
      { progress with steps := progress.steps + (code - next) * (progress.length + 1) }
    let passed := word.foldl (Progress.pass basics code) reached
    insertions word basics (code + 1) { passed with steps := passed.steps + 1 } others

/-- Puts a code in its place among ascending ones, if it is not there yet. -/
def insertCode (code : Nat) : List Nat → List Nat
  | [] => [code]
  | next :: rest =>
    if code < next then code :: next :: rest
    else if code = next then next :: rest
    else next :: insertCode code rest

/-- The word in ASCII. -/
def encode (word : List Nat) : List Char :=
  let basics := word.filter isBasic
  let codes := (word.filter fun code => !isBasic code).foldr insertCode []
  let start : Progress := ⟨[], 0, firstBias, basics.length⟩
  let front := if basics.isEmpty then [] else basics.map Char.ofNat ++ ['-']
  front ++ (insertions word basics.length 0x80 start codes).written

/-! ## Decoding -/

/-- The greatest code of a character. -/
def greatestCode : Nat :=
  0x10FFFF

/-- Where the decoding of a word stands. -/
structure Reading where
  word : List Nat
  /-- The place and the code of the next insertion, were its number zero. -/
  place : Nat
  code : Nat
  bias : Nat
  isFirst : Bool
  /-- The digits of a number that has not ended yet: how many there are, what the next one counts,
  and their sum. -/
  digitCount : Nat
  weight : Nat
  sum : Nat

/-- Inserts a character after the number of steps, unless there is no such character. -/
def Reading.insert? (reading : Reading) (steps : Nat) : Option Reading :=
  let length := reading.word.length + 1
  let code := reading.code + (reading.place + steps) / length
  let place := (reading.place + steps) % length
  if greatestCode < code then none
  else
    some
      { word := reading.word.take place ++ code :: reading.word.drop place
        place := place + 1
        code := code
        bias := nextBias reading.isFirst length steps
        isFirst := false
        digitCount := 0
        weight := 1
        sum := 0 }

/-- Reads one letter of a number. -/
def Reading.take? (reading : Reading) (letter : Char) : Option Reading := do
  let digit ← digitValue? letter
  let sum := reading.sum + digit * reading.weight
  let least := limit reading.bias reading.digitCount
  if digit < least then reading.insert? sum
  else
    return { reading with
      digitCount := reading.digitCount + 1
      weight := reading.weight * (base - least)
      sum := sum }

/-- The word that the letters stand for; the last number has to end. -/
def decode? (letters : List Char) : Option (List Nat) := do
  let tail := (letters.reverse.takeWhile (· ≠ '-')).reverse
  let basics := (letters.take (letters.length - tail.length - 1)).map Char.toNat
  let start : Reading := ⟨basics, 0, 0x80, firstBias, true, 0, 1, 0⟩
  let reading ← tail.foldlM Reading.take? start
  if reading.digitCount = 0 then return reading.word else none

end PriceBoard.Text.Punycode
