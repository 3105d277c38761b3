import PriceBoard.Text.Bytes
import PriceBoard.Text.Hexadecimal

/-!
# Escaped words

Addresses consist of certain ASCII characters.  Any other character is written by its bytes, each as
a percent sign with two hexadecimal digits.  `escape` writes a word that way and `unescape` reads
it; a percent sign without two digits stands for itself.
-/

namespace PriceBoard.Text

/-! ## Writing -/

/-- The byte, escaped. -/
def escapeByte (byte : UInt8) : List Char :=
  '%' :: (hexWord 2 byte.toNat).map Char.toUpper

/-- The character, escaped byte by byte. -/
def escapeLetter (letter : Char) : List Char :=
  (String.utf8EncodeChar letter).flatMap escapeByte

/-- The word with all characters escaped that are not in the class. -/
def escape (isPlain : Char → Bool) (word : List Char) : List Char :=
  word.flatMap fun letter => if isPlain letter then [letter] else escapeLetter letter

/-! ## Reading -/

/-- Whether the character is ASCII. -/
def isAscii (letter : Char) : Bool :=
  letter.toNat < 0x80

/-- The bytes that a word of ASCII characters stands for. -/
def escapedBytes : List Char → List Nat
  | '%' :: a :: b :: rest =>
    match hexValue? a, hexValue? b with
    | some high, some low => (0x10 * high + low) :: escapedBytes rest
    | _, _ => '%'.toNat :: escapedBytes (a :: b :: rest)
  | letter :: rest => letter.toNat :: escapedBytes rest
  | [] => []

/-- The word with the characters in place of their bytes. -/
def unescape (word : List Char) : List Char :=
  (word.splitBy fun first second => isAscii first = isAscii second).flatMap fun run =>
    if run.all isAscii then ofBytes (escapedBytes run) else run

end PriceBoard.Text
