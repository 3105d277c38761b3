import PriceBoard.Asset
import PriceBoard.Outcome
import PriceBoard.Quotation

/-!
# Sources

A source prices some of the assets.  Which ones it supports can be told from the asset alone; what
it quotes for a list of them depends on what its provider answers.
-/

namespace PriceBoard

/-- Something that quotes prices. -/
structure Source (ε : Type) where
  name : String
  supports : Asset → Bool
  quotations : List Asset → Outcome ε (List Quotation)

end PriceBoard
