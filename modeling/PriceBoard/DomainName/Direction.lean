import PriceBoard.Text.Mark

/-!
# Directions of letters

Letters are written from left to right or from right to left, and digits, hyphens and marks go
along with them in different ways.  `Direction.of?` gives the direction of whatever a label of a
domain name may hold, by the Unicode character database, version 14; characters that are younger
have none.  Ranges are `(first, length)`.
-/

namespace PriceBoard.DomainName

open Text

/-- How a character is written in running text. -/
inductive Direction where
  | left
  | right
  /-- Letters of the Arabic and of related scripts. -/
  | arabicLetter
  | digit
  | arabicDigit
  | hyphen
  /-- Marks, which go along with their letter. -/
  | mark
  | joiner
  | neutral
  deriving DecidableEq

/-! ## Tables -/

/-- Letters that are written from right to left. -/
def rightRanges : List (Nat × Nat) :=
  [
    (0x5D0, 27), (0x5EF, 6), (0x7C0, 43), (0x7F4, 2), (0x800, 22), (0x81A, 1), (0x824, 1),
    (0x828, 1), (0x840, 25), (0x10800, 6), (0x10808, 1), (0x1080A, 44), (0x10837, 2), (0x1083C, 1),
    (0x1083F, 23), (0x10860, 23), (0x10880, 31), (0x108E0, 19), (0x108F4, 2), (0x10900, 22),
    (0x10920, 26), (0x10980, 56), (0x109BE, 2), (0x10A00, 1), (0x10A10, 4), (0x10A15, 3),
    (0x10A19, 29), (0x10A60, 29), (0x10A80, 29), (0x10AC0, 8), (0x10AC9, 28), (0x10B00, 54),
    (0x10B40, 22), (0x10B60, 19), (0x10B80, 18), (0x10C00, 73), (0x10CC0, 51), (0x10E80, 42),
    (0x10EB0, 2), (0x10F00, 29), (0x10F27, 1), (0x10F70, 18), (0x10FB0, 21), (0x10FE0, 23),
    (0x1E800, 197), (0x1E922, 34), (0x1E94B, 1), (0x1E950, 10)
  ]

/-- Letters of the Arabic and of related scripts. -/
def arabicLetterRanges : List (Nat × Nat) :=
  [
    (0x620, 32), (0x641, 10), (0x66E, 2), (0x671, 4), (0x679, 91), (0x6D5, 1), (0x6E5, 2),
    (0x6EE, 2), (0x6FA, 6), (0x710, 1), (0x712, 30), (0x74D, 89), (0x7B1, 1), (0x860, 11),
    (0x870, 24), (0x889, 6), (0x8A0, 42), (0xFE73, 1), (0x10D00, 36), (0x10F30, 22)
  ]

/-- Digits that are written among letters from right to left. -/
def arabicDigitRanges : List (Nat × Nat) :=
  [
    (0x660, 10), (0x10D30, 10)
  ]

/-- Other digits. -/
def digitRanges : List (Nat × Nat) :=
  [
    (0x30, 10), (0x6F0, 10)
  ]

/-- Characters without a direction of their own. -/
def neutralRanges : List (Nat × Nat) :=
  [
    (0xB7, 1), (0x2B9, 2), (0x2C6, 10), (0x2EC, 1), (0x375, 1), (0x2E2F, 1), (0x30FB, 1),
    (0xA67F, 1), (0xA717, 9), (0xA788, 1)
  ]

/-- Marks without space of their own that are written from left to right. -/
def leftMarkRanges : List (Nat × Nat) :=
  [
    (0xCBF, 1), (0xCC6, 1), (0x11A07, 2), (0x11C3F, 1)
  ]

/-- Characters that the database does not have yet. -/
def youngRanges : List (Nat × Nat) :=
  [
    (0x88F, 1), (0x897, 1), (0xC5C, 1), (0xCDC, 1), (0xCF3, 1), (0xECE, 1), (0x1ACF, 15),
    (0x1AE0, 12), (0x1C8A, 1), (0xA7CD, 1), (0xA7CF, 1), (0xA7DB, 1), (0x105C0, 52), (0x10940, 26),
    (0x10D40, 16), (0x10D69, 5), (0x10D6F, 23), (0x10EC2, 6), (0x10EFA, 6), (0x1123F, 3),
    (0x11380, 10), (0x1138B, 1), (0x1138E, 1), (0x11390, 38), (0x113B7, 10), (0x113C2, 1),
    (0x113C5, 1), (0x113C7, 4), (0x113CC, 8), (0x113E1, 2), (0x116D0, 20), (0x11B60, 8),
    (0x11BC0, 33), (0x11BF0, 10), (0x11DB0, 44), (0x11DE0, 10), (0x11F00, 17), (0x11F12, 41),
    (0x11F3E, 5), (0x11F50, 11), (0x1342F, 1), (0x13440, 22), (0x13460, 3995), (0x16100, 58),
    (0x16D40, 45), (0x16D70, 10), (0x16EBB, 25), (0x16FF2, 2), (0x187F8, 8), (0x18CFF, 1),
    (0x18D09, 22), (0x18D80, 115), (0x1B132, 1), (0x1B155, 1), (0x1DF25, 6), (0x1E08F, 1),
    (0x1E4D0, 42), (0x1E5D0, 43), (0x1E6C0, 31), (0x1E6E0, 22), (0x1E6FE, 2), (0x2B739, 7),
    (0x2CEA2, 12), (0x2EBF0, 622), (0x31350, 8490)
  ]

/-! ## Directions -/

/-- The direction of a character, unless it is too young to have one. -/
def Direction.of? (code : Nat) : Option Direction :=
  let isIn (ranges : List (Nat × Nat)) : Bool := ranges.any (inRange code)
  if isIn youngRanges then none
  else if code = 0x2D then some .hyphen
  else if code = 0x200C || code = 0x200D then some .joiner
  else if isIn digitRanges then some .digit
  else if isIn arabicDigitRanges then some .arabicDigit
  else if isIn neutralRanges then some .neutral
  else if isIn rightRanges then some .right
  else if isIn arabicLetterRanges then some .arabicLetter
  else if isIn leftMarkRanges then some .left
  else if isPlainMark code then some .mark
  else some .left

end PriceBoard.DomainName
