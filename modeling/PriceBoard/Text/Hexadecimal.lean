/-!
# Hexadecimal numbers

Hidden characters are shown, and characters of documents and addresses may be spelled, by their
number in hexadecimal digits.
-/

namespace PriceBoard.Text

/-- The lower-case hexadecimal digit of a value below sixteen. -/
def hexLetter (value : Nat) : Char :=
  if value < 10 then Char.ofNat (0x30 + value) else Char.ofNat (0x57 + value)

/-- The last `width` hexadecimal digits of the number. -/
def hexWord : Nat → Nat → List Char
  | 0, _ => []
  | width + 1, number => hexWord width (number / 16) ++ [hexLetter (number % 16)]

/-- The value of a hexadecimal digit of either case. -/
def hexValue? (letter : Char) : Option Nat :=
  let code := letter.toNat
  if 0x30 ≤ code && code ≤ 0x39 then some (code - 0x30)
  else if 0x41 ≤ code && code ≤ 0x46 then some (code - 0x37)
  else if 0x61 ≤ code && code ≤ 0x66 then some (code - 0x57)
  else none

end PriceBoard.Text
