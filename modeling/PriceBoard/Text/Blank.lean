/-!
# Blanks

Texts from outside are read up to the blanks around them.  Two classes of blank characters matter:
`isBlank`, the white space that separates words in running text, information separators included,
and the slightly smaller `isSpace`, the Unicode property `White_Space`.
-/

namespace PriceBoard.Text

/-! ## The two classes -/

/-- Whether the character has the Unicode property `White_Space`. -/
def isSpace (letter : Char) : Bool :=
  let code := letter.toNat
  (0x09 ≤ code && code ≤ 0x0D) || code == 0x20 || code == 0x85 || code == 0xA0 ||
    code == 0x1680 || (0x2000 ≤ code && code ≤ 0x200A) || code == 0x2028 || code == 0x2029 ||
    code == 0x202F || code == 0x205F || code == 0x3000

/-- Whether the character is white space in running text: the `White_Space` characters and the
four information separators. -/
def isBlank (letter : Char) : Bool :=
  isSpace letter || (0x1C ≤ letter.toNat && letter.toNat ≤ 0x1F)

/-! ## Trimming -/

/-- The word without the characters of the class at its start. -/
def dropLeading (inClass : Char → Bool) (word : List Char) : List Char :=
  word.dropWhile inClass

/-- The word without the characters of the class at its end. -/
def dropTrailing (inClass : Char → Bool) (word : List Char) : List Char :=
  (word.reverse.dropWhile inClass).reverse

/-- The word without the characters of the class at either end. -/
def trimWord (inClass : Char → Bool) (word : List Char) : List Char :=
  dropTrailing inClass (dropLeading inClass word)

/-- The text without the blanks around it. -/
def strip (text : String) : String :=
  String.ofList (trimWord isBlank text.toList)

/-- Whether the text holds nothing but blanks. -/
def isBlankText (text : String) : Bool :=
  text.toList.all isBlank

end PriceBoard.Text
