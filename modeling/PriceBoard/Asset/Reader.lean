import PriceBoard.Asset
import PriceBoard.Validation.Reader

/-!
# Assets in documents

An asset stands in a document as an object with its two names.  A document can spell names that are
no texts, because half of a pair stands alone in them; no asset has such a name.
-/

namespace PriceBoard.Asset

/-- The names of an asset as a document spells them. -/
structure Spelled where
  blockchain : Spelling
  symbol : Spelling
  deriving DecidableEq

/-- The asset with the names, if both are texts. -/
def Spelled.asset? (names : Spelled) : Option Asset := do
  return ⟨← names.blockchain.text?, ← names.symbol.text?⟩

/-- The asset that is shown for the names. -/
def Spelled.shown (names : Spelled) : Asset :=
  ⟨names.blockchain.text, names.symbol.text⟩

open Checked Reader in
/-- Reads the names of an asset; `otherKind` is the problem of a value that is no object. -/
def checkNames (otherKind : Problem) : Json → Checked Spelled
  | .object fields =>
    apply (apply (.ok Spelled.mk)
      (required fields "blockchain" spelling))
      (required fields "symbol" spelling)
  | value => here value (.error otherKind)

/-- Reads an asset; `otherKind` is the problem of a value that is no object. -/
def check (otherKind : Problem) (value : Json) : Checked Asset :=
  (checkNames otherKind value).map Spelled.shown

end PriceBoard.Asset
