import PriceBoard.Text.Mark

/-!
# Joining of letters

In some scripts the form of a letter depends on the letters it joins, in front of it or behind it.
Marks and formats are passed over.  Ranges are `(first, length)`.
-/

namespace PriceBoard.DomainName

open Text

/-- On which sides a letter joins others. -/
inductive Joining where
  | onBothSides
  /-- The letter joins the one behind it. -/
  | onLeft
  /-- The letter joins the one in front of it. -/
  | onRight
  /-- The character is passed over. -/
  | passedOver
  | none
  deriving DecidableEq

/-- Letters that join on both sides. -/
def bothSidesRanges : List (Nat × Nat) :=
  [
    (0x620, 1), (0x626, 1), (0x628, 1), (0x62A, 5), (0x633, 13), (0x641, 7), (0x649, 2), (0x66E, 2),
    (0x678, 16), (0x69A, 38), (0x6C1, 2), (0x6CC, 1), (0x6CE, 1), (0x6D0, 2), (0x6FA, 3),
    (0x6FF, 1), (0x712, 3), (0x71A, 4), (0x71F, 9), (0x729, 1), (0x72B, 1), (0x72D, 2), (0x74E, 11),
    (0x75C, 15), (0x76D, 4), (0x772, 1), (0x775, 3), (0x77A, 6), (0x7CA, 33), (0x841, 5),
    (0x848, 1), (0x84A, 10), (0x855, 1), (0x860, 1), (0x862, 4), (0x868, 1), (0x886, 1), (0x889, 5),
    (0x88F, 1), (0x8A0, 10), (0x8AF, 2), (0x8B3, 6), (0x8BA, 15), (0x1807, 1), (0x1820, 89),
    (0x1887, 34), (0x18AA, 1), (0xA840, 50), (0x10AC0, 5), (0x10AD3, 4), (0x10AD8, 5), (0x10ADE, 3),
    (0x10AEB, 4), (0x10B80, 1), (0x10B82, 1), (0x10B86, 3), (0x10B8A, 2), (0x10B8D, 1),
    (0x10B90, 1), (0x10BAD, 2), (0x10D01, 33), (0x10D23, 1), (0x10EC3, 2), (0x10EC6, 2),
    (0x10F30, 3), (0x10F34, 17), (0x10F51, 3), (0x10F70, 4), (0x10F76, 12), (0x10FB0, 1),
    (0x10FB2, 2), (0x10FB8, 1), (0x10FBB, 2), (0x10FBE, 2), (0x10FC1, 1), (0x10FC4, 1),
    (0x10FCA, 1), (0x1E900, 68)
  ]

/-- Letters that join the one behind them. -/
def onLeftRanges : List (Nat × Nat) :=
  [
    (0xA872, 1), (0x10ACD, 1), (0x10AD7, 1), (0x10D00, 1), (0x10FCB, 1)
  ]

/-- Letters that join the one in front of them. -/
def onRightRanges : List (Nat × Nat) :=
  [
    (0x622, 4), (0x627, 1), (0x629, 1), (0x62F, 4), (0x648, 1), (0x671, 3), (0x675, 3), (0x688, 18),
    (0x6C0, 1), (0x6C3, 9), (0x6CD, 1), (0x6CF, 1), (0x6D2, 2), (0x6D5, 1), (0x6EE, 2), (0x710, 1),
    (0x715, 5), (0x71E, 1), (0x728, 1), (0x72A, 1), (0x72C, 1), (0x72F, 1), (0x74D, 1), (0x759, 3),
    (0x76B, 2), (0x771, 1), (0x773, 2), (0x778, 2), (0x840, 1), (0x846, 2), (0x849, 1), (0x854, 1),
    (0x856, 3), (0x867, 1), (0x869, 2), (0x870, 19), (0x88E, 1), (0x8AA, 3), (0x8AE, 1), (0x8B1, 2),
    (0x8B9, 1), (0x10AC5, 1), (0x10AC7, 1), (0x10AC9, 2), (0x10ACE, 5), (0x10ADD, 1), (0x10AE1, 1),
    (0x10AE4, 1), (0x10AEF, 1), (0x10B81, 1), (0x10B83, 3), (0x10B89, 1), (0x10B8C, 1),
    (0x10B8E, 2), (0x10B91, 1), (0x10BA9, 4), (0x10D22, 1), (0x10EC2, 1), (0x10F33, 1),
    (0x10F54, 1), (0x10F74, 2), (0x10FB4, 3), (0x10FB9, 2), (0x10FBD, 1), (0x10FC2, 2), (0x10FC9, 1)
  ]

/-- Formats that are passed over, and the marks that came after version 14 of the database. -/
def passedOverRanges : List (Nat × Nat) :=
  [
    (0xAD, 1), (0x61C, 1), (0x70F, 1), (0x897, 1), (0xECE, 1), (0x1ACF, 15), (0x1AE0, 12),
    (0x200B, 1), (0x200E, 2), (0x202A, 5), (0x2060, 5), (0x206A, 6), (0xFEFF, 1), (0xFFF9, 3),
    (0x10D69, 5), (0x10EFA, 6), (0x11241, 1), (0x113BB, 6), (0x113CE, 1), (0x113D0, 1),
    (0x113D2, 1), (0x113E1, 2), (0x11B60, 1), (0x11B62, 3), (0x11B66, 1), (0x11F00, 2),
    (0x11F36, 5), (0x11F40, 1), (0x11F42, 1), (0x11F5A, 1), (0x13430, 9), (0x13440, 1),
    (0x13447, 15), (0x1611E, 12), (0x1612D, 3), (0x1BCA0, 4), (0x1D173, 8), (0x1E08F, 1),
    (0x1E4EC, 4), (0x1E5EE, 2), (0x1E6E3, 1), (0x1E6E6, 1), (0x1E6EE, 2), (0x1E6F5, 1),
    (0x1E94B, 1), (0xE0001, 1), (0xE0020, 96)
  ]

/-- Marks without space of their own that are not passed over. -/
def unjoinedMarkRanges : List (Nat × Nat) :=
  [
    (0x1171E, 1)
  ]

/-- How the character joins others. -/
def Joining.of (code : Nat) : Joining :=
  let isIn (ranges : List (Nat × Nat)) : Bool := ranges.any (inRange code)
  if isIn bothSidesRanges then .onBothSides
  else if isIn onLeftRanges then .onLeft
  else if isIn onRightRanges then .onRight
  else if isIn passedOverRanges then .passedOver
  else if isPlainMark code && !isIn unjoinedMarkRanges then .passedOver
  else .none

end PriceBoard.DomainName
