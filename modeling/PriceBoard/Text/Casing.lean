import PriceBoard.Text.Mark

/-!
# Letters with case

The case of a letter can depend on where a word ends, and a word ends where no letter with case
follows.  Marks, points and apostrophes neither have case nor end a word.  The tables follow the
Unicode character database, version 14, and their ranges are `(first, length)`.
-/

namespace PriceBoard.Text

/-- Letters that have case, as far as they are not passed over. -/
def casedRanges : List (Nat × Nat) :=
  [
    (0x41, 26), (0x61, 26), (0xAA, 1), (0xB5, 1), (0xBA, 1), (0xC0, 23), (0xD8, 31), (0xF8, 195),
    (0x1BC, 4), (0x1C4, 208), (0x295, 27), (0x370, 4), (0x376, 2), (0x37B, 3), (0x37F, 1),
    (0x386, 1), (0x388, 3), (0x38C, 1), (0x38E, 20), (0x3A3, 83), (0x3F7, 139), (0x48A, 166),
    (0x531, 38), (0x560, 41), (0x10A0, 38), (0x10C7, 1), (0x10CD, 1), (0x10D0, 43), (0x10FD, 3),
    (0x13A0, 86), (0x13F8, 6), (0x1C80, 9), (0x1C90, 43), (0x1CBD, 3), (0x1D00, 44), (0x1D6B, 13),
    (0x1D79, 34), (0x1E00, 278), (0x1F18, 6), (0x1F20, 38), (0x1F48, 6), (0x1F50, 8), (0x1F59, 1),
    (0x1F5B, 1), (0x1F5D, 1), (0x1F5F, 31), (0x1F80, 53), (0x1FB6, 7), (0x1FBE, 1), (0x1FC2, 3),
    (0x1FC6, 7), (0x1FD0, 4), (0x1FD6, 6), (0x1FE0, 13), (0x1FF2, 3), (0x1FF6, 7), (0x2102, 1),
    (0x2107, 1), (0x210A, 10), (0x2115, 1), (0x2119, 5), (0x2124, 1), (0x2126, 1), (0x2128, 1),
    (0x212A, 4), (0x212F, 6), (0x2139, 1), (0x213C, 4), (0x2145, 5), (0x214E, 1), (0x2160, 32),
    (0x2183, 2), (0x24B6, 52), (0x2C00, 124), (0x2C7E, 103), (0x2CEB, 4), (0x2CF2, 2), (0x2D00, 38),
    (0x2D27, 1), (0x2D2D, 1), (0xA640, 46), (0xA680, 28), (0xA722, 78), (0xA771, 23), (0xA78B, 4),
    (0xA790, 59), (0xA7D0, 2), (0xA7D3, 1), (0xA7D5, 5), (0xA7F5, 2), (0xA7FA, 1), (0xAB30, 43),
    (0xAB60, 9), (0xAB70, 80), (0xFB00, 7), (0xFB13, 5), (0xFF21, 26), (0xFF41, 26), (0x10400, 80),
    (0x104B0, 36), (0x104D8, 36), (0x10570, 11), (0x1057C, 15), (0x1058C, 7), (0x10594, 2),
    (0x10597, 11), (0x105A3, 15), (0x105B3, 7), (0x105BB, 2), (0x10C80, 51), (0x10CC0, 51),
    (0x118A0, 64), (0x16E40, 64), (0x1D400, 85), (0x1D456, 71), (0x1D49E, 2), (0x1D4A2, 1),
    (0x1D4A5, 2), (0x1D4A9, 4), (0x1D4AE, 12), (0x1D4BB, 1), (0x1D4BD, 7), (0x1D4C5, 65),
    (0x1D507, 4), (0x1D50D, 8), (0x1D516, 7), (0x1D51E, 28), (0x1D53B, 4), (0x1D540, 5),
    (0x1D546, 1), (0x1D54A, 7), (0x1D552, 340), (0x1D6A8, 25), (0x1D6C2, 25), (0x1D6DC, 31),
    (0x1D6FC, 25), (0x1D716, 31), (0x1D736, 25), (0x1D750, 31), (0x1D770, 25), (0x1D78A, 31),
    (0x1D7AA, 25), (0x1D7C4, 8), (0x1DF00, 10), (0x1DF0B, 20), (0x1E900, 68), (0x1F130, 26),
    (0x1F150, 26), (0x1F170, 26)
  ]

/-- Characters that are passed over, marks without space of their own left out. -/
def passedRanges : List (Nat × Nat) :=
  [
    (0x27, 1), (0x2E, 1), (0x3A, 1), (0x5E, 1), (0x60, 1), (0xA8, 1), (0xAD, 1), (0xAF, 1),
    (0xB4, 1), (0xB7, 2), (0x2B0, 80), (0x374, 2), (0x37A, 1), (0x384, 2), (0x387, 1), (0x559, 1),
    (0x55F, 1), (0x5F4, 1), (0x600, 6), (0x61C, 1), (0x640, 1), (0x6DD, 1), (0x6E5, 2), (0x70F, 1),
    (0x7F4, 2), (0x7FA, 1), (0x81A, 1), (0x824, 1), (0x828, 1), (0x888, 1), (0x890, 2), (0x8C9, 1),
    (0x8E2, 1), (0x971, 1), (0xE46, 1), (0xEC6, 1), (0x10FC, 1), (0x17D7, 1), (0x180E, 1),
    (0x1843, 1), (0x1AA7, 1), (0x1C78, 6), (0x1D2C, 63), (0x1D78, 1), (0x1D9B, 37), (0x1FBD, 1),
    (0x1FBF, 3), (0x1FCD, 3), (0x1FDD, 3), (0x1FED, 3), (0x1FFD, 2), (0x200B, 5), (0x2018, 2),
    (0x2024, 1), (0x2027, 1), (0x202A, 5), (0x2060, 5), (0x2066, 10), (0x2071, 1), (0x207F, 1),
    (0x2090, 13), (0x2C7C, 2), (0x2D6F, 1), (0x2E2F, 1), (0x3005, 1), (0x3031, 5), (0x303B, 1),
    (0x309B, 4), (0x30FC, 3), (0xA015, 1), (0xA4F8, 6), (0xA60C, 1), (0xA67F, 1), (0xA69C, 2),
    (0xA700, 34), (0xA770, 1), (0xA788, 3), (0xA7F2, 3), (0xA7F8, 2), (0xA9CF, 1), (0xA9E6, 1),
    (0xAA70, 1), (0xAADD, 1), (0xAAF3, 2), (0xAB5B, 5), (0xAB69, 3), (0xFBB2, 17), (0xFE13, 1),
    (0xFE52, 1), (0xFE55, 1), (0xFEFF, 1), (0xFF07, 1), (0xFF0E, 1), (0xFF1A, 1), (0xFF3E, 1),
    (0xFF40, 1), (0xFF70, 1), (0xFF9E, 2), (0xFFE3, 1), (0xFFF9, 3), (0x10780, 6), (0x10787, 42),
    (0x107B2, 9), (0x110BD, 1), (0x110CD, 1), (0x13430, 9), (0x16B40, 4), (0x16F93, 13),
    (0x16FE0, 2), (0x16FE3, 1), (0x1AFF0, 4), (0x1AFF5, 7), (0x1AFFD, 2), (0x1BCA0, 4),
    (0x1D173, 8), (0x1E137, 7), (0x1E94B, 1), (0x1F3FB, 5), (0xE0001, 1), (0xE0020, 96)
  ]

/-- Whether the letter has case. -/
def isCased (code : Nat) : Bool :=
  casedRanges.any (inRange code)

/-- Whether the character neither has case nor ends a word. -/
def isCasePassed (code : Nat) : Bool :=
  passedRanges.any (inRange code) || isPlainMark code

end PriceBoard.Text
