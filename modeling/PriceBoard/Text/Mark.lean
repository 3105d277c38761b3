import PriceBoard.Text.Printable

/-!
# Marks

A mark belongs to the letter in front of it.  Some marks take space of their own and most do not.
Marks of different combining classes do not touch each other, so their order does not matter; the
class of everything that is not combined with its neighbour is zero.  The tables follow the Unicode
character database, version 14, and their ranges are `(first, length)`.
-/

namespace PriceBoard.Text

/-! ## Marks -/

/-- Marks without space of their own, up to `U+2CF1`. -/
def plainMarkRangesLow : List (Nat × Nat) :=
  [
    (0x300, 112), (0x483, 7), (0x591, 45), (0x5BF, 1), (0x5C1, 2), (0x5C4, 2), (0x5C7, 1),
    (0x610, 11), (0x64B, 21), (0x670, 1), (0x6D6, 7), (0x6DF, 6), (0x6E7, 2), (0x6EA, 4),
    (0x711, 1), (0x730, 27), (0x7A6, 11), (0x7EB, 9), (0x7FD, 1), (0x816, 4), (0x81B, 9),
    (0x825, 3), (0x829, 5), (0x859, 3), (0x898, 8), (0x8CA, 24), (0x8E3, 32), (0x93A, 1),
    (0x93C, 1), (0x941, 8), (0x94D, 1), (0x951, 7), (0x962, 2), (0x981, 1), (0x9BC, 1), (0x9C1, 4),
    (0x9CD, 1), (0x9E2, 2), (0x9FE, 1), (0xA01, 2), (0xA3C, 1), (0xA41, 2), (0xA47, 2), (0xA4B, 3),
    (0xA51, 1), (0xA70, 2), (0xA75, 1), (0xA81, 2), (0xABC, 1), (0xAC1, 5), (0xAC7, 2), (0xACD, 1),
    (0xAE2, 2), (0xAFA, 6), (0xB01, 1), (0xB3C, 1), (0xB3F, 1), (0xB41, 4), (0xB4D, 1), (0xB55, 2),
    (0xB62, 2), (0xB82, 1), (0xBC0, 1), (0xBCD, 1), (0xC00, 1), (0xC04, 1), (0xC3C, 1), (0xC3E, 3),
    (0xC46, 3), (0xC4A, 4), (0xC55, 2), (0xC62, 2), (0xC81, 1), (0xCBC, 1), (0xCBF, 1), (0xCC6, 1),
    (0xCCC, 2), (0xCE2, 2), (0xD00, 2), (0xD3B, 2), (0xD41, 4), (0xD4D, 1), (0xD62, 2), (0xD81, 1),
    (0xDCA, 1), (0xDD2, 3), (0xDD6, 1), (0xE31, 1), (0xE34, 7), (0xE47, 8), (0xEB1, 1), (0xEB4, 9),
    (0xEC8, 6), (0xF18, 2), (0xF35, 1), (0xF37, 1), (0xF39, 1), (0xF71, 14), (0xF80, 5), (0xF86, 2),
    (0xF8D, 11), (0xF99, 36), (0xFC6, 1), (0x102D, 4), (0x1032, 6), (0x1039, 2), (0x103D, 2),
    (0x1058, 2), (0x105E, 3), (0x1071, 4), (0x1082, 1), (0x1085, 2), (0x108D, 1), (0x109D, 1),
    (0x135D, 3), (0x1712, 3), (0x1732, 2), (0x1752, 2), (0x1772, 2), (0x17B4, 2), (0x17B7, 7),
    (0x17C6, 1), (0x17C9, 11), (0x17DD, 1), (0x180B, 3), (0x180F, 1), (0x1885, 2), (0x18A9, 1),
    (0x1920, 3), (0x1927, 2), (0x1932, 1), (0x1939, 3), (0x1A17, 2), (0x1A1B, 1), (0x1A56, 1),
    (0x1A58, 7), (0x1A60, 1), (0x1A62, 1), (0x1A65, 8), (0x1A73, 10), (0x1A7F, 1), (0x1AB0, 31),
    (0x1B00, 4), (0x1B34, 1), (0x1B36, 5), (0x1B3C, 1), (0x1B42, 1), (0x1B6B, 9), (0x1B80, 2),
    (0x1BA2, 4), (0x1BA8, 2), (0x1BAB, 3), (0x1BE6, 1), (0x1BE8, 2), (0x1BED, 1), (0x1BEF, 3),
    (0x1C2C, 8), (0x1C36, 2), (0x1CD0, 3), (0x1CD4, 13), (0x1CE2, 7), (0x1CED, 1), (0x1CF4, 1),
    (0x1CF8, 2), (0x1DC0, 64), (0x20D0, 33), (0x2CEF, 3)
  ]

/-- The other marks without space of their own. -/
def plainMarkRangesHigh : List (Nat × Nat) :=
  [
    (0x2D7F, 1), (0x2DE0, 32), (0x302A, 4), (0x3099, 2), (0xA66F, 4), (0xA674, 10), (0xA69E, 2),
    (0xA6F0, 2), (0xA802, 1), (0xA806, 1), (0xA80B, 1), (0xA825, 2), (0xA82C, 1), (0xA8C4, 2),
    (0xA8E0, 18), (0xA8FF, 1), (0xA926, 8), (0xA947, 11), (0xA980, 3), (0xA9B3, 1), (0xA9B6, 4),
    (0xA9BC, 2), (0xA9E5, 1), (0xAA29, 6), (0xAA31, 2), (0xAA35, 2), (0xAA43, 1), (0xAA4C, 1),
    (0xAA7C, 1), (0xAAB0, 1), (0xAAB2, 3), (0xAAB7, 2), (0xAABE, 2), (0xAAC1, 1), (0xAAEC, 2),
    (0xAAF6, 1), (0xABE5, 1), (0xABE8, 1), (0xABED, 1), (0xFB1E, 1), (0xFE00, 16), (0xFE20, 16),
    (0x101FD, 1), (0x102E0, 1), (0x10376, 5), (0x10A01, 3), (0x10A05, 2), (0x10A0C, 4),
    (0x10A38, 3), (0x10A3F, 1), (0x10AE5, 2), (0x10D24, 4), (0x10EAB, 2), (0x10F46, 11),
    (0x10F82, 4), (0x11001, 1), (0x11038, 15), (0x11070, 1), (0x11073, 2), (0x1107F, 3),
    (0x110B3, 4), (0x110B9, 2), (0x110C2, 1), (0x11100, 3), (0x11127, 5), (0x1112D, 8),
    (0x11173, 1), (0x11180, 2), (0x111B6, 9), (0x111C9, 4), (0x111CF, 1), (0x1122F, 3),
    (0x11234, 1), (0x11236, 2), (0x1123E, 1), (0x112DF, 1), (0x112E3, 8), (0x11300, 2),
    (0x1133B, 2), (0x11340, 1), (0x11366, 7), (0x11370, 5), (0x11438, 8), (0x11442, 3),
    (0x11446, 1), (0x1145E, 1), (0x114B3, 6), (0x114BA, 1), (0x114BF, 2), (0x114C2, 2),
    (0x115B2, 4), (0x115BC, 2), (0x115BF, 2), (0x115DC, 2), (0x11633, 8), (0x1163D, 1),
    (0x1163F, 2), (0x116AB, 1), (0x116AD, 1), (0x116B0, 6), (0x116B7, 1), (0x1171D, 3),
    (0x11722, 4), (0x11727, 5), (0x1182F, 9), (0x11839, 2), (0x1193B, 2), (0x1193E, 1),
    (0x11943, 1), (0x119D4, 4), (0x119DA, 2), (0x119E0, 1), (0x11A01, 10), (0x11A33, 6),
    (0x11A3B, 4), (0x11A47, 1), (0x11A51, 6), (0x11A59, 3), (0x11A8A, 13), (0x11A98, 2),
    (0x11C30, 7), (0x11C38, 6), (0x11C3F, 1), (0x11C92, 22), (0x11CAA, 7), (0x11CB2, 2),
    (0x11CB5, 2), (0x11D31, 6), (0x11D3A, 1), (0x11D3C, 2), (0x11D3F, 7), (0x11D47, 1),
    (0x11D90, 2), (0x11D95, 1), (0x11D97, 1), (0x11EF3, 2), (0x16AF0, 5), (0x16B30, 7),
    (0x16F4F, 1), (0x16F8F, 4), (0x16FE4, 1), (0x1BC9D, 2), (0x1CF00, 46), (0x1CF30, 23),
    (0x1D167, 3), (0x1D17B, 8), (0x1D185, 7), (0x1D1AA, 4), (0x1D242, 3), (0x1DA00, 55),
    (0x1DA3B, 50), (0x1DA75, 1), (0x1DA84, 1), (0x1DA9B, 5), (0x1DAA1, 15), (0x1E000, 7),
    (0x1E008, 17), (0x1E01B, 7), (0x1E023, 2), (0x1E026, 5), (0x1E130, 7), (0x1E2AE, 1),
    (0x1E2EC, 4), (0x1E8D0, 7), (0x1E944, 7), (0xE0100, 240)
  ]

/-- Marks with space of their own. -/
def spacingMarkRanges : List (Nat × Nat) :=
  [
    (0x903, 1), (0x93B, 1), (0x93E, 3), (0x949, 4), (0x94E, 2), (0x982, 2), (0x9BE, 3), (0x9C7, 2),
    (0x9CB, 2), (0x9D7, 1), (0xA03, 1), (0xA3E, 3), (0xA83, 1), (0xABE, 3), (0xAC9, 1), (0xACB, 2),
    (0xB02, 2), (0xB3E, 1), (0xB40, 1), (0xB47, 2), (0xB4B, 2), (0xB57, 1), (0xBBE, 2), (0xBC1, 2),
    (0xBC6, 3), (0xBCA, 3), (0xBD7, 1), (0xC01, 3), (0xC41, 4), (0xC82, 2), (0xCBE, 1), (0xCC0, 5),
    (0xCC7, 2), (0xCCA, 2), (0xCD5, 2), (0xD02, 2), (0xD3E, 3), (0xD46, 3), (0xD4A, 3), (0xD57, 1),
    (0xD82, 2), (0xDCF, 3), (0xDD8, 8), (0xDF2, 2), (0xF3E, 2), (0xF7F, 1), (0x102B, 2),
    (0x1031, 1), (0x1038, 1), (0x103B, 2), (0x1056, 2), (0x1062, 3), (0x1067, 7), (0x1083, 2),
    (0x1087, 6), (0x108F, 1), (0x109A, 3), (0x1715, 1), (0x1734, 1), (0x17B6, 1), (0x17BE, 8),
    (0x17C7, 2), (0x1923, 4), (0x1929, 3), (0x1930, 2), (0x1933, 6), (0x1A19, 2), (0x1A55, 1),
    (0x1A57, 1), (0x1A61, 1), (0x1A63, 2), (0x1A6D, 6), (0x1B04, 1), (0x1B35, 1), (0x1B3B, 1),
    (0x1B3D, 5), (0x1B43, 2), (0x1B82, 1), (0x1BA1, 1), (0x1BA6, 2), (0x1BAA, 1), (0x1BE7, 1),
    (0x1BEA, 3), (0x1BEE, 1), (0x1BF2, 2), (0x1C24, 8), (0x1C34, 2), (0x1CE1, 1), (0x1CF7, 1),
    (0x302E, 2), (0xA823, 2), (0xA827, 1), (0xA880, 2), (0xA8B4, 16), (0xA952, 2), (0xA983, 1),
    (0xA9B4, 2), (0xA9BA, 2), (0xA9BE, 3), (0xAA2F, 2), (0xAA33, 2), (0xAA4D, 1), (0xAA7B, 1),
    (0xAA7D, 1), (0xAAEB, 1), (0xAAEE, 2), (0xAAF5, 1), (0xABE3, 2), (0xABE6, 2), (0xABE9, 2),
    (0xABEC, 1), (0x11000, 1), (0x11002, 1), (0x11082, 1), (0x110B0, 3), (0x110B7, 2), (0x1112C, 1),
    (0x11145, 2), (0x11182, 1), (0x111B3, 3), (0x111BF, 2), (0x111CE, 1), (0x1122C, 3),
    (0x11232, 2), (0x11235, 1), (0x112E0, 3), (0x11302, 2), (0x1133E, 2), (0x11341, 4),
    (0x11347, 2), (0x1134B, 3), (0x11357, 1), (0x11362, 2), (0x11435, 3), (0x11440, 2),
    (0x11445, 1), (0x114B0, 3), (0x114B9, 1), (0x114BB, 4), (0x114C1, 1), (0x115AF, 3),
    (0x115B8, 4), (0x115BE, 1), (0x11630, 3), (0x1163B, 2), (0x1163E, 1), (0x116AC, 1),
    (0x116AE, 2), (0x116B6, 1), (0x11720, 2), (0x11726, 1), (0x1182C, 3), (0x11838, 1),
    (0x11930, 6), (0x11937, 2), (0x1193D, 1), (0x11940, 1), (0x11942, 1), (0x119D1, 3),
    (0x119DC, 4), (0x119E4, 1), (0x11A39, 1), (0x11A57, 2), (0x11A97, 1), (0x11C2F, 1),
    (0x11C3E, 1), (0x11CA9, 1), (0x11CB1, 1), (0x11CB4, 1), (0x11D8A, 5), (0x11D93, 2),
    (0x11D96, 1), (0x11EF5, 2), (0x16F51, 55), (0x16FF0, 2), (0x1D165, 2), (0x1D16D, 6)
  ]

/-- Whether the number is that of a mark without space of its own. -/
def isPlainMark (code : Nat) : Bool :=
  plainMarkRangesLow.any (inRange code) || plainMarkRangesHigh.any (inRange code)

/-- Whether the number is that of a mark. -/
def isMark (code : Nat) : Bool :=
  isPlainMark code || spacingMarkRanges.any (inRange code)

/-! ## Combining classes -/

/-- Ranges `(first, length, class)` of marks with a class above zero, the lower half. -/
def classRangesLow : List (Nat × Nat × Nat) :=
  [
    (0x300, 21, 230), (0x315, 1, 232), (0x316, 4, 220), (0x31A, 1, 232), (0x31B, 1, 216),
    (0x31C, 5, 220), (0x321, 2, 202), (0x323, 4, 220), (0x327, 2, 202), (0x329, 11, 220),
    (0x334, 5, 1), (0x339, 4, 220), (0x33D, 8, 230), (0x345, 1, 240), (0x346, 1, 230),
    (0x347, 3, 220), (0x34A, 3, 230), (0x34D, 2, 220), (0x350, 3, 230), (0x353, 4, 220),
    (0x357, 1, 230), (0x358, 1, 232), (0x359, 2, 220), (0x35B, 1, 230), (0x35C, 1, 233),
    (0x35D, 2, 234), (0x35F, 1, 233), (0x360, 2, 234), (0x362, 1, 233), (0x363, 13, 230),
    (0x483, 5, 230), (0x591, 1, 220), (0x592, 4, 230), (0x596, 1, 220), (0x597, 3, 230),
    (0x59A, 1, 222), (0x59B, 1, 220), (0x59C, 6, 230), (0x5A2, 6, 220), (0x5A8, 2, 230),
    (0x5AA, 1, 220), (0x5AB, 2, 230), (0x5AD, 1, 222), (0x5AE, 1, 228), (0x5AF, 1, 230),
    (0x5B0, 1, 10), (0x5B1, 1, 11), (0x5B2, 1, 12), (0x5B3, 1, 13), (0x5B4, 1, 14), (0x5B5, 1, 15),
    (0x5B6, 1, 16), (0x5B7, 1, 17), (0x5B8, 1, 18), (0x5B9, 2, 19), (0x5BB, 1, 20), (0x5BC, 1, 21),
    (0x5BD, 1, 22), (0x5BF, 1, 23), (0x5C1, 1, 24), (0x5C2, 1, 25), (0x5C4, 1, 230),
    (0x5C5, 1, 220), (0x5C7, 1, 18), (0x610, 8, 230), (0x618, 1, 30), (0x619, 1, 31),
    (0x61A, 1, 32), (0x64B, 1, 27), (0x64C, 1, 28), (0x64D, 1, 29), (0x64E, 1, 30), (0x64F, 1, 31),
    (0x650, 1, 32), (0x651, 1, 33), (0x652, 1, 34), (0x653, 2, 230), (0x655, 2, 220),
    (0x657, 5, 230), (0x65C, 1, 220), (0x65D, 2, 230), (0x65F, 1, 220), (0x670, 1, 35),
    (0x6D6, 7, 230), (0x6DF, 4, 230), (0x6E3, 1, 220), (0x6E4, 1, 230), (0x6E7, 2, 230),
    (0x6EA, 1, 220), (0x6EB, 2, 230), (0x6ED, 1, 220), (0x711, 1, 36), (0x730, 1, 230),
    (0x731, 1, 220), (0x732, 2, 230), (0x734, 1, 220), (0x735, 2, 230), (0x737, 3, 220),
    (0x73A, 1, 230), (0x73B, 2, 220), (0x73D, 1, 230), (0x73E, 1, 220), (0x73F, 3, 230),
    (0x742, 1, 220), (0x743, 1, 230), (0x744, 1, 220), (0x745, 1, 230), (0x746, 1, 220),
    (0x747, 1, 230), (0x748, 1, 220), (0x749, 2, 230), (0x7EB, 7, 230), (0x7F2, 1, 220),
    (0x7F3, 1, 230), (0x7FD, 1, 220), (0x816, 4, 230), (0x81B, 9, 230), (0x825, 3, 230),
    (0x829, 5, 230), (0x859, 3, 220), (0x898, 1, 230), (0x899, 3, 220), (0x89C, 4, 230),
    (0x8CA, 5, 230), (0x8CF, 5, 220), (0x8D4, 14, 230), (0x8E3, 1, 220), (0x8E4, 2, 230),
    (0x8E6, 1, 220), (0x8E7, 2, 230), (0x8E9, 1, 220), (0x8EA, 3, 230), (0x8ED, 3, 220),
    (0x8F0, 1, 27), (0x8F1, 1, 28), (0x8F2, 1, 29), (0x8F3, 3, 230), (0x8F6, 1, 220),
    (0x8F7, 2, 230), (0x8F9, 2, 220), (0x8FB, 5, 230), (0x93C, 1, 7), (0x94D, 1, 9),
    (0x951, 1, 230), (0x952, 1, 220), (0x953, 2, 230), (0x9BC, 1, 7), (0x9CD, 1, 9),
    (0x9FE, 1, 230), (0xA3C, 1, 7), (0xA4D, 1, 9), (0xABC, 1, 7), (0xACD, 1, 9), (0xB3C, 1, 7),
    (0xB4D, 1, 9), (0xBCD, 1, 9), (0xC3C, 1, 7), (0xC4D, 1, 9), (0xC55, 1, 84), (0xC56, 1, 91),
    (0xCBC, 1, 7), (0xCCD, 1, 9), (0xD3B, 2, 9), (0xD4D, 1, 9), (0xDCA, 1, 9), (0xE38, 2, 103),
    (0xE3A, 1, 9), (0xE48, 4, 107), (0xEB8, 2, 118), (0xEBA, 1, 9), (0xEC8, 4, 122),
    (0xF18, 2, 220), (0xF35, 1, 220), (0xF37, 1, 220), (0xF39, 1, 216), (0xF71, 1, 129),
    (0xF72, 1, 130), (0xF74, 1, 132), (0xF7A, 4, 130), (0xF80, 1, 130), (0xF82, 2, 230),
    (0xF84, 1, 9), (0xF86, 2, 230), (0xFC6, 1, 220), (0x1037, 1, 7), (0x1039, 2, 9),
    (0x108D, 1, 220), (0x135D, 3, 230), (0x1714, 2, 9), (0x1734, 1, 9), (0x17D2, 1, 9)
  ]

/-- Ranges `(first, length, class)` of marks with a class above zero, the upper half. -/
def classRangesHigh : List (Nat × Nat × Nat) :=
  [
    (0x17DD, 1, 230), (0x18A9, 1, 228), (0x1939, 1, 222), (0x193A, 1, 230), (0x193B, 1, 220),
    (0x1A17, 1, 230), (0x1A18, 1, 220), (0x1A60, 1, 9), (0x1A75, 8, 230), (0x1A7F, 1, 220),
    (0x1AB0, 5, 230), (0x1AB5, 6, 220), (0x1ABB, 2, 230), (0x1ABD, 1, 220), (0x1ABF, 2, 220),
    (0x1AC1, 2, 230), (0x1AC3, 2, 220), (0x1AC5, 5, 230), (0x1ACA, 1, 220), (0x1ACB, 4, 230),
    (0x1B34, 1, 7), (0x1B44, 1, 9), (0x1B6B, 1, 230), (0x1B6C, 1, 220), (0x1B6D, 7, 230),
    (0x1BAA, 2, 9), (0x1BE6, 1, 7), (0x1BF2, 2, 9), (0x1C37, 1, 7), (0x1CD0, 3, 230),
    (0x1CD4, 1, 1), (0x1CD5, 5, 220), (0x1CDA, 2, 230), (0x1CDC, 4, 220), (0x1CE0, 1, 230),
    (0x1CE2, 7, 1), (0x1CED, 1, 220), (0x1CF4, 1, 230), (0x1CF8, 2, 230), (0x1DC0, 2, 230),
    (0x1DC2, 1, 220), (0x1DC3, 7, 230), (0x1DCA, 1, 220), (0x1DCB, 2, 230), (0x1DCD, 1, 234),
    (0x1DCE, 1, 214), (0x1DCF, 1, 220), (0x1DD0, 1, 202), (0x1DD1, 37, 230), (0x1DF6, 1, 232),
    (0x1DF7, 2, 228), (0x1DF9, 1, 220), (0x1DFA, 1, 218), (0x1DFB, 1, 230), (0x1DFC, 1, 233),
    (0x1DFD, 1, 220), (0x1DFE, 1, 230), (0x1DFF, 1, 220), (0x20D0, 2, 230), (0x20D2, 2, 1),
    (0x20D4, 4, 230), (0x20D8, 3, 1), (0x20DB, 2, 230), (0x20E1, 1, 230), (0x20E5, 2, 1),
    (0x20E7, 1, 230), (0x20E8, 1, 220), (0x20E9, 1, 230), (0x20EA, 2, 1), (0x20EC, 4, 220),
    (0x20F0, 1, 230), (0x2CEF, 3, 230), (0x2D7F, 1, 9), (0x2DE0, 32, 230), (0x302A, 1, 218),
    (0x302B, 1, 228), (0x302C, 1, 232), (0x302D, 1, 222), (0x302E, 2, 224), (0x3099, 2, 8),
    (0xA66F, 1, 230), (0xA674, 10, 230), (0xA69E, 2, 230), (0xA6F0, 2, 230), (0xA806, 1, 9),
    (0xA82C, 1, 9), (0xA8C4, 1, 9), (0xA8E0, 18, 230), (0xA92B, 3, 220), (0xA953, 1, 9),
    (0xA9B3, 1, 7), (0xA9C0, 1, 9), (0xAAB0, 1, 230), (0xAAB2, 2, 230), (0xAAB4, 1, 220),
    (0xAAB7, 2, 230), (0xAABE, 2, 230), (0xAAC1, 1, 230), (0xAAF6, 1, 9), (0xABED, 1, 9),
    (0xFB1E, 1, 26), (0xFE20, 7, 230), (0xFE27, 7, 220), (0xFE2E, 2, 230), (0x101FD, 1, 220),
    (0x102E0, 1, 220), (0x10376, 5, 230), (0x10A0D, 1, 220), (0x10A0F, 1, 230), (0x10A38, 1, 230),
    (0x10A39, 1, 1), (0x10A3A, 1, 220), (0x10A3F, 1, 9), (0x10AE5, 1, 230), (0x10AE6, 1, 220),
    (0x10D24, 4, 230), (0x10EAB, 2, 230), (0x10F46, 2, 220), (0x10F48, 3, 230), (0x10F4B, 1, 220),
    (0x10F4C, 1, 230), (0x10F4D, 4, 220), (0x10F82, 1, 230), (0x10F83, 1, 220), (0x10F84, 1, 230),
    (0x10F85, 1, 220), (0x11046, 1, 9), (0x11070, 1, 9), (0x1107F, 1, 9), (0x110B9, 1, 9),
    (0x110BA, 1, 7), (0x11100, 3, 230), (0x11133, 2, 9), (0x11173, 1, 7), (0x111C0, 1, 9),
    (0x111CA, 1, 7), (0x11235, 1, 9), (0x11236, 1, 7), (0x112E9, 1, 7), (0x112EA, 1, 9),
    (0x1133B, 2, 7), (0x1134D, 1, 9), (0x11366, 7, 230), (0x11370, 5, 230), (0x11442, 1, 9),
    (0x11446, 1, 7), (0x1145E, 1, 230), (0x114C2, 1, 9), (0x114C3, 1, 7), (0x115BF, 1, 9),
    (0x115C0, 1, 7), (0x1163F, 1, 9), (0x116B6, 1, 9), (0x116B7, 1, 7), (0x1172B, 1, 9),
    (0x11839, 1, 9), (0x1183A, 1, 7), (0x1193D, 2, 9), (0x11943, 1, 7), (0x119E0, 1, 9),
    (0x11A34, 1, 9), (0x11A47, 1, 9), (0x11A99, 1, 9), (0x11C3F, 1, 9), (0x11D42, 1, 7),
    (0x11D44, 2, 9), (0x11D97, 1, 9), (0x16AF0, 5, 1), (0x16B30, 7, 230), (0x16FF0, 2, 6),
    (0x1BC9E, 1, 1), (0x1D165, 2, 216), (0x1D167, 3, 1), (0x1D16D, 1, 226), (0x1D16E, 5, 216),
    (0x1D17B, 8, 220), (0x1D185, 5, 230), (0x1D18A, 2, 220), (0x1D1AA, 4, 230), (0x1D242, 3, 230),
    (0x1E000, 7, 230), (0x1E008, 17, 230), (0x1E01B, 7, 230), (0x1E023, 2, 230), (0x1E026, 5, 230),
    (0x1E130, 7, 230), (0x1E2AE, 1, 230), (0x1E2EC, 4, 230), (0x1E8D0, 7, 220), (0x1E944, 6, 230),
    (0x1E94A, 1, 7)
  ]

/-- Whether the number lies in the range. -/
def inClassRange (code : Nat) (range : Nat × Nat × Nat) : Bool :=
  inRange code (range.1, range.2.1)

/-- The combining class of the character with the number. -/
def combiningClass (code : Nat) : Nat :=
  match classRangesLow.find? (inClassRange code) with
  | some (_, _, combining) => combining
  | none => (classRangesHigh.find? (inClassRange code)).elim 0 fun (_, _, combining) => combining

/-- The combining class of the sign that silences the vowel of the letter in front. -/
def silencerClass : Nat :=
  9

end PriceBoard.Text
