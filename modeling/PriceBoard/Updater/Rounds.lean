import PriceBoard.Updater.Worker

/-!
# The rounds of a worker

A worker goes round: it runs its next cycle and rests for the pause after it.  It may be told to stop
at any time.  During a pause this ends its rest at once, and while a cycle runs it keeps the worker
from resting at all.

The system keeps a pause in nanoseconds, as a whole number of 64 bits with a sign, so that it can wait
for some 292 years at most.  A longer pause is a fault, and so is an interval that no double stands
for.  Nothing handles these two: they end the worker.
-/

namespace PriceBoard

/-- Whether the system can wait for the pause, which has to be shorter than `2 ^ 63` nanoseconds. -/
def Seconds.isWaitable (pause : Float) : Bool :=
  !decide (9223372036.854775808 ≤ pause)

namespace Worker

/-- The fault of a pause that is too long. -/
def pauseFault : Fault :=
  .general .outOfRange "timestamp out of range for platform time_t"

/-- Lets the worker rest, unless it has been told to stop.  The result has the fault that ends the
worker, if there is one. -/
def rest (worker : Worker) (pause : Float) : Worker × Option Fault :=
  if worker.stopped then (worker.observe, none)
  else if Seconds.isWaitable pause then (worker, none)
  else ({ worker with alive := false }, some pauseFault)

/-- What can happen to a worker: it is told to stop between two cycles, or it goes round, and may be
told to stop while its cycle runs. -/
inductive Event where
  | told
  | round (input : CycleInput) (told : Bool)

/-- Lets the worker go round once.  The result has the fault that ends it, if there is one. -/
def round (worker : Worker) (input : CycleInput) (told : Bool) : Worker × Option Fault :=
  if !worker.observe.alive then (worker.observe, none)
  else
    let cycled := (worker.advance input).1
    let after := if told then cycled.stop.1 else cycled
    match (worker.updater.iterate input).result with
    | .error fault => (after, some fault)
    | .ok pause => after.rest pause

/-- The worker after the events, up to a fault that ends it. -/
def live (worker : Worker) : List Event → Worker × Option Fault
  | [] => (worker, none)
  | .told :: others => worker.stop.1.observe.live others
  | .round input told :: others =>
    match worker.round input told with
    | (after, none) => after.live others
    | (after, some fault) => (after, some fault)

end Worker

end PriceBoard
