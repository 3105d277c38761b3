import PriceBoard.Text.Spelling

/-!
# Encodings

A text arrives as bytes, and what arrives need not be encoded as agreed: the zeros among its first
bytes tell whether its characters take one, two or four bytes and in which order.  `decode?` finds
that out and reads the text.  Numbers of two or four bytes can also spell halves of pairs that stand
alone.
-/

namespace PriceBoard.Text

/-! ## Kinds of encodings -/

/-- How characters are encoded. -/
inductive Encoding where
  /-- One to four bytes a character, as agreed. -/
  | bytes
  /-- One or two numbers of two bytes a character. -/
  | pairs (highFirst : Bool)
  /-- One number of four bytes a character. -/
  | quads (highFirst : Bool)
  deriving DecidableEq

/-- The encoding of a text that starts with the bytes. -/
def Encoding.ofBytes : List Nat → Encoding
  | a :: b :: c :: d :: _ =>
    if a = 0 then if b = 0 then quads true else pairs true
    else if b = 0 then if c = 0 && d = 0 then quads false else pairs false
    else bytes
  | [a, b] => if a = 0 then pairs true else if b = 0 then pairs false else bytes
  | _ => bytes

/-! ## Reading -/

/-- The number that two bytes stand for. -/
def ofTwoBytes (highFirst : Bool) (first second : Nat) : Nat :=
  if highFirst then 0x100 * first + second else 0x100 * second + first

/-- The numbers that the bytes stand for, two by two. -/
def pairNumbers? (highFirst : Bool) : List Nat → Option (List Nat)
  | [] => some []
  | [_] => none
  | a :: b :: rest => do
    return ofTwoBytes highFirst a b :: (← pairNumbers? highFirst rest)

/-- The numbers that the bytes stand for, four by four. -/
def quadNumbers? (highFirst : Bool) : List Nat → Option (List Nat)
  | [] => some []
  | a :: b :: c :: d :: rest => do
    let first := ofTwoBytes highFirst a b
    let second := ofTwoBytes highFirst c d
    let number := if highFirst then 0x10000 * first + second else 0x10000 * second + first
    if 0x110000 ≤ number then none else return number :: (← quadNumbers? highFirst rest)
  | _ => none

/-- The letters of numbers of which a pair may stand for one character. -/
def joinPairs : List Nat → List Letter
  | high :: low :: rest =>
    if isHighHalf high && isLowHalf low then .character (pairLetter high low) :: joinPairs rest
    else .ofCode high :: joinPairs (low :: rest)
  | [number] => [.ofCode number]
  | [] => []

/-- The letters of a text that arrived in the bytes of the given one, if the bytes are complete.
A byte order mark at its front does not belong to it. -/
def decode? (arrived : String) : Option (List Letter) :=
  match arrived.toList with
  | '\uFEFF' :: rest => some (rest.map .character)
  | letters =>
    let bytes := arrived.toUTF8.toList.map UInt8.toNat
    match Encoding.ofBytes bytes with
    | .bytes => some (letters.map .character)
    | .pairs highFirst => (pairNumbers? highFirst bytes).map joinPairs
    | .quads highFirst => (quadNumbers? highFirst bytes).map (List.map Letter.ofCode)

end PriceBoard.Text
