import PriceBoard.Updater.Rounds

/-!
# The workers of an updater

A worker is a thread of its own.  The updater starts it and refers to the one it started last, but all
it can do afterwards is tell it to stop.  Stopping waits a moment for the worker and then returns,
even if the worker is still in the middle of a cycle.

So there may be several workers, one after the other, and here all of them are kept with the place
that each has reached.  A `Worker` is what the updater can see of them.
-/

namespace PriceBoard

/-- The place that a worker has reached. -/
inductive Phase where
  /-- It is about to look whether it has been told to stop. -/
  | head
  | cycle
  | pause (length : Float)
  | ended

/-- What a worker does next. -/
inductive Move where
  | look
  | finish (input : CycleInput)
  /-- Its pause comes to an end, because it is over or because the worker has been told to stop. -/
  | wake
  /-- A fault that nothing handles ends the worker and leaves such an updater. -/
  | fail (left : Updater)

namespace Phase

/-- Whether the worker has not ended. -/
def isAlive : Phase → Bool
  | ended => false
  | _ => true

/-- The updater and the worker's place after a move; a move that does not belong to the place
changes nothing. -/
def next (told : Bool) (updater : Updater) : Phase → Move → Updater × Phase
  | head, .look => (updater, if told then ended else cycle)
  | cycle, .finish input =>
    let effect := updater.iterate input
    match effect.result with
    | .ok length => (effect.updater, pause length)
    | .error _ => (effect.updater, ended)
  | pause length, .wake =>
    (updater, if !told && Seconds.isWaitable length then head else ended)
  | ended, .fail _ => (updater, ended)
  | _, .fail left => (left, ended)
  | phase, _ => (updater, phase)

end Phase

/-- An updater with all workers that it has started. -/
structure Crew where
  updater : Updater
  workers : List Phase
  /-- The worker that the updater refers to. -/
  current : Option Nat
  /-- Whether the updater has been stopped. -/
  stopped : Bool
  /-- Whether the workers have been told to stop. -/
  told : Bool

namespace Crew

/-- An updater that has not started a worker yet. -/
def initial (updater : Updater) : Crew :=
  ⟨updater, [], none, false, false⟩

/-- Whether there is such a worker, and it has not ended. -/
def isAtWork (crew : Crew) (index : Nat) : Bool :=
  crew.workers[index]?.any Phase.isAlive

/-- Whether the worker that the updater refers to is at work. -/
def isRunning (crew : Crew) : Bool :=
  crew.current.any crew.isAtWork

/-- What the updater sees of its workers. -/
def seen (crew : Crew) : Worker :=
  ⟨crew.updater, crew.isRunning, crew.stopped⟩

/-- Starts a worker, if the updater sees that there has to be a new one. -/
def start (crew : Crew) : Crew × Except Fault Bool × List String :=
  match crew.seen.start with
  | (_, .ok true, log) =>
    ({ crew with workers := crew.workers ++ [.head], current := some crew.workers.length },
      .ok true, log)
  | (_, result, log) => (crew, result, log)

/-- Stops the updater and tells the workers. -/
def stop (crew : Crew) : Crew × List String :=
  let (worker, log) := crew.seen.stop
  ({ crew with stopped := worker.stopped, told := true }, log)

/-- What can happen: the updater is started or stopped, or one of the workers makes a move. -/
inductive Event where
  | start
  | stop
  | moves (index : Nat) (move : Move)

/-- The crew after an event. -/
def afterEvent (crew : Crew) : Event → Crew
  | .start => crew.start.1
  | .stop => crew.stop.1
  | .moves index move =>
    match crew.workers[index]? with
    | none => crew
    | some phase =>
      let (updater, reached) := phase.next crew.told crew.updater move
      { crew with updater := updater, workers := crew.workers.set index reached }

/-- The crew after the events. -/
def after (crew : Crew) (events : List Event) : Crew :=
  events.foldl afterEvent crew

end Crew

end PriceBoard
