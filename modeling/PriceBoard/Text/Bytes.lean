/-!
# Characters of bytes

A character takes one to four bytes: a first byte, which tells how many follow, and further ones,
which add six bits each.  `ofBytes` reads bytes as characters; where they do not fit together, the
replacement character stands for the longest part that could have been the start of a character.
-/

namespace PriceBoard.Text

/-- A character of which some bytes are missing. -/
structure Unfinished where
  /-- The bits that are known. -/
  code : Nat
  /-- How many bytes are missing. -/
  missing : Nat
  /-- The least and the greatest value that the next byte may have. -/
  least : Nat
  greatest : Nat

/-- The least value of a further byte. -/
def leastFurther : Nat :=
  0x80

/-- The greatest value of a further byte. -/
def greatestFurther : Nat :=
  0xBF

/-- The start of a character that takes more than one byte.  The second byte is limited where the
character could have been written with fewer bytes, or would be none at all. -/
def Unfinished.ofFirst? (byte : Nat) : Option Unfinished :=
  if 0xC2 ≤ byte && byte ≤ 0xDF then some ⟨byte - 0xC0, 1, leastFurther, greatestFurther⟩
  else if 0xE0 ≤ byte && byte ≤ 0xEF then
    some ⟨byte - 0xE0, 2, if byte = 0xE0 then 0xA0 else leastFurther,
      if byte = 0xED then 0x9F else greatestFurther⟩
  else if 0xF0 ≤ byte && byte ≤ 0xF4 then
    some ⟨byte - 0xF0, 3, if byte = 0xF0 then 0x90 else leastFurther,
      if byte = 0xF4 then 0x8F else greatestFurther⟩
  else none

/-- Whether the byte goes on with the character. -/
def Unfinished.accepts (start : Unfinished) (byte : Nat) : Bool :=
  start.least ≤ byte && byte ≤ start.greatest

/-- The bits that are known with a further byte. -/
def Unfinished.codeWith (start : Unfinished) (byte : Nat) : Nat :=
  0x40 * start.code + (byte - leastFurther)

/-- What a first byte makes: a character, the replacement for one, or the start of one. -/
def firstByte (byte : Nat) : List Char × Option Unfinished :=
  if byte < 0x80 then ([Char.ofNat byte], none)
  else
    match Unfinished.ofFirst? byte with
    | some start => ([], some start)
    | none => (['\uFFFD'], none)

/-- The characters of bytes, of which some were read already. -/
def ofBytesAfter : Option Unfinished → List Nat → List Char
  | none, [] => []
  | some _, [] => ['\uFFFD']
  | none, byte :: rest =>
    let (made, start) := firstByte byte
    made ++ ofBytesAfter start rest
  | some start, byte :: rest =>
    if start.accepts byte then
      if start.missing ≤ 1 then Char.ofNat (start.codeWith byte) :: ofBytesAfter none rest
      else
        ofBytesAfter
          (some ⟨start.codeWith byte, start.missing - 1, leastFurther, greatestFurther⟩) rest
    else
      let (made, start) := firstByte byte
      '\uFFFD' :: made ++ ofBytesAfter start rest

/-- The characters of the bytes. -/
def ofBytes (bytes : List Nat) : List Char :=
  ofBytesAfter none bytes

end PriceBoard.Text
