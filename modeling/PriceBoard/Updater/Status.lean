/-!
# The state of the updater

Figures about the cycles so far: how many were completed, what the last one did and how long it
took, how many prices could not be converted and how many cycles failed.
-/

namespace PriceBoard

/-- Whether a cycle is going on. -/
inductive Activity where
  | idle
  | running
  deriving DecidableEq

/-- The name of the activity. -/
def Activity.name : Activity → String
  | idle => "IDLE"
  | running => "RUNNING"

/-- Figures about the cycles so far. -/
structure Status where
  activity : Activity
  /-- How many cycles were completed. -/
  runs : Nat
  /-- When the last cycle was completed. -/
  lastRun : Option Int
  /-- How long the last cycle took, in seconds. -/
  lastCycle : Option Float
  /-- How long the pause after the last cycle is, in seconds. -/
  lastSleep : Option Float
  /-- How many records were published last. -/
  lastPublished : Nat
  /-- How many prices had no fixed-point form. -/
  conversionErrors : Nat
  /-- How many cycles failed. -/
  cycleErrors : Nat

/-- The figures before the first cycle. -/
def Status.initial : Status :=
  ⟨.idle, 0, none, none, none, 0, 0, 0⟩

end PriceBoard
