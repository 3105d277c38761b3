import PriceBoard.Text.Printable

/-!
# Scripts

Some characters may stand in a label only beside letters of a certain script.  Ranges are
`(first, length)`.
-/

namespace PriceBoard.DomainName

open Text

/-- Greek. -/
def greekRanges : List (Nat × Nat) :=
  [
    (0x370, 4), (0x375, 3), (0x37A, 4), (0x37F, 1), (0x384, 1), (0x386, 1), (0x388, 3), (0x38C, 1),
    (0x38E, 20), (0x3A3, 63), (0x3F0, 16), (0x1D26, 5), (0x1D5D, 5), (0x1D66, 5), (0x1DBF, 1),
    (0x1F00, 22), (0x1F18, 6), (0x1F20, 38), (0x1F48, 6), (0x1F50, 8), (0x1F59, 1), (0x1F5B, 1),
    (0x1F5D, 1), (0x1F5F, 31), (0x1F80, 53), (0x1FB6, 15), (0x1FC6, 14), (0x1FD6, 6), (0x1FDD, 19),
    (0x1FF2, 3), (0x1FF6, 9), (0x2126, 1), (0xAB65, 1), (0x10140, 79), (0x101A0, 1), (0x1D200, 70)
  ]

/-- Hebrew. -/
def hebrewRanges : List (Nat × Nat) :=
  [
    (0x591, 55), (0x5D0, 27), (0x5EF, 6), (0xFB1D, 26), (0xFB38, 5), (0xFB3E, 1), (0xFB40, 2),
    (0xFB43, 2), (0xFB46, 10)
  ]

/-- The three scripts of Japanese. -/
def japaneseRanges : List (Nat × Nat) :=
  [
    (0x2E80, 26), (0x2E9B, 89), (0x2F00, 214), (0x3005, 1), (0x3007, 1), (0x3021, 9), (0x3038, 4),
    (0x3041, 86), (0x309D, 3), (0x30A1, 90), (0x30FD, 3), (0x31F0, 16), (0x32D0, 47), (0x3300, 88),
    (0x3400, 6592), (0x4E00, 20992), (0xF900, 366), (0xFA70, 106), (0xFF66, 10), (0xFF71, 45),
    (0x16FE2, 2), (0x16FF0, 7), (0x1AFF0, 4), (0x1AFF5, 7), (0x1AFFD, 2), (0x1B000, 291),
    (0x1B132, 1), (0x1B150, 3), (0x1B155, 1), (0x1B164, 4), (0x1F200, 1), (0x20000, 42720),
    (0x2A700, 4382), (0x2B820, 5774), (0x2CEB0, 7473), (0x2EBF0, 622), (0x2F800, 542),
    (0x30000, 4939), (0x31350, 8490)
  ]

/-- Whether the character is Greek. -/
def isGreek (code : Nat) : Bool :=
  greekRanges.any (inRange code)

/-- Whether the character is Hebrew. -/
def isHebrew (code : Nat) : Bool :=
  hebrewRanges.any (inRange code)

/-- Whether the character belongs to a script of Japanese. -/
def isJapanese (code : Nat) : Bool :=
  japaneseRanges.any (inRange code)

end PriceBoard.DomainName
