/-!
# Decimal digits

Numbers in texts may be written with the decimal digits of any script.  The Unicode character
database, version 14, has them in rows of ten consecutive characters, from zero to nine.
-/

namespace PriceBoard.Text

/-- The zeros of the scripts above `U+0080` that have decimal digits. -/
def scriptZeros : List Nat :=
  [
    0x660, 0x6F0, 0x7C0, 0x966, 0x9E6, 0xA66, 0xAE6, 0xB66, 0xBE6, 0xC66, 0xCE6, 0xD66, 0xDE6,
    0xE50, 0xED0, 0xF20, 0x1040, 0x1090, 0x17E0, 0x1810, 0x1946, 0x19D0, 0x1A80, 0x1A90, 0x1B50,
    0x1BB0, 0x1C40, 0x1C50, 0xA620, 0xA8D0, 0xA900, 0xA9D0, 0xA9F0, 0xAA50, 0xABF0, 0xFF10,
    0x104A0, 0x10D30, 0x11066, 0x110F0, 0x11136, 0x111D0, 0x112F0, 0x11450, 0x114D0, 0x11650,
    0x116C0, 0x11730, 0x118E0, 0x11950, 0x11C50, 0x11D50, 0x11DA0, 0x16A60, 0x16AC0, 0x16B50,
    0x1D7CE, 0x1D7D8, 0x1D7E2, 0x1D7EC, 0x1D7F6, 0x1E140, 0x1E2F0, 0x1E950, 0x1FBF0
  ]

/-- The value of an ASCII digit. -/
def asciiDigit? (letter : Char) : Option Nat :=
  if '0'.toNat ≤ letter.toNat && letter.toNat ≤ '9'.toNat then some (letter.toNat - '0'.toNat)
  else none

/-- The value of a decimal digit of any script. -/
def digit? (letter : Char) : Option Nat :=
  match asciiDigit? letter with
  | some value => some value
  | none =>
    (scriptZeros.find? fun start => start ≤ letter.toNat && letter.toNat < start + 10).map
      fun start => letter.toNat - start

/-- The ASCII digit of a value below ten. -/
def digitLetter (value : Nat) : Char :=
  Char.ofNat ('0'.toNat + value)

end PriceBoard.Text
