/-!
# Cutting words at a separator

Lists of assets, and the two parts of an asset, are written as one text with separators.
`splitWord` cuts at every occurrence of a separator and `cutWord` at the first one only.
Underscores separate nothing: `withoutUnderscores?` closes the gaps that they leave in numbers.
-/

namespace PriceBoard.Text

/-- The parts of the word between the occurrences of the separator; one part more than there are
occurrences. -/
def splitWord (separator : Char) : List Char → List (List Char)
  | [] => [[]]
  | letter :: rest =>
    if letter = separator then [] :: splitWord separator rest
    else
      match splitWord separator rest with
      | [] => [[letter]]
      | first :: others => (letter :: first) :: others

/-- What stands before and after the first occurrence of the separator, if there is one. -/
def cutWord (separator : Char) : List Char → Option (List Char × List Char)
  | [] => none
  | letter :: rest =>
    if letter = separator then some ([], rest)
    else (cutWord separator rest).map fun parts => (letter :: parts.1, parts.2)

/-- The parts of the text between the occurrences of the separator. -/
def split (separator : Char) (text : String) : List String :=
  (splitWord separator text.toList).map String.ofList

/-- The texts one after the other, with a comma between neighbours. -/
def commaJoin (texts : List String) : String :=
  ",".intercalate texts

/-- Whether the second word contains the first one. -/
def occursIn (part : List Char) : List Char → Bool
  | [] => part.isEmpty
  | letter :: rest => part.isPrefixOf (letter :: rest) || occursIn part rest

/-! ## Underscores -/

/-- The word without its underscores, if it has some, but none at its ends and no two in a row. -/
def withoutUnderscores? (word : List Char) : Option (List Char) :=
  if !word.contains '_' || word.head? = some '_' || word.getLast? = some '_' ||
      occursIn ['_', '_'] word then none
  else some (word.filter (· ≠ '_'))

end PriceBoard.Text
