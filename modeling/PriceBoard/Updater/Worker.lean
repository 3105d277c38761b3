import PriceBoard.Updater.Cycle

/-!
# The worker

Cycles run one after the other on a worker, from its start until it is told to stop.  There is one
worker at most: starting again while it is alive changes nothing, and once the updater has been
stopped no worker is started any more.

A worker looks whether it has been told to stop before each cycle and during each pause, and ends if
so.
-/

namespace PriceBoard

/-- An updater with its worker. -/
structure Worker where
  updater : Updater
  /-- Whether a worker is at work. -/
  alive : Bool
  /-- Whether the updater has been stopped. -/
  stopped : Bool

namespace Worker

/-- An updater without a worker. -/
def idle (updater : Updater) : Worker :=
  ⟨updater, false, false⟩

/-- The fault of starting after a stop. -/
def restartFault : Fault :=
  .general .runtime "price updater cannot be restarted after stop"

/-- The line that is logged when a worker starts. -/
def startNote (updater : Updater) : String :=
  "[UPDATER][start] interval_sec=" ++ updater.interval.text ++ " currencies=" ++
    toString updater.assets.length

/-- The line that is logged when the updater stops. -/
def stopNote : String :=
  "[UPDATER][stop] thread=price-updater"

/-- Starts a worker; the result tells whether a new one is at work. -/
def start (worker : Worker) : Worker × Except Fault Bool × List String :=
  if worker.alive then (worker, .ok false, [])
  else if worker.stopped then (worker, .error restartFault, [])
  else ({ worker with alive := true }, .ok true, [startNote worker.updater])

/-- Tells the worker to stop. -/
def stop (worker : Worker) : Worker × List String :=
  ({ worker with stopped := true }, [stopNote])

/-- Ends a worker that has been told to stop, before a cycle or during a pause. -/
def observe (worker : Worker) : Worker :=
  if worker.stopped then { worker with alive := false } else worker

/-- Lets the worker run its next cycle; the result is the pause after it, if there was a cycle and
the pause can be waited for. -/
def advance (worker : Worker) (input : CycleInput) : Worker × Option Float × List String :=
  let worker := worker.observe
  if !worker.alive then (worker, none, [])
  else
    let effect := worker.updater.iterate input
    match effect.result with
    | .ok sleep => ({ worker with updater := effect.updater }, some sleep, effect.log)
    | .error _ => ({ worker with updater := effect.updater, alive := false }, none, effect.log)

end Worker

end PriceBoard
