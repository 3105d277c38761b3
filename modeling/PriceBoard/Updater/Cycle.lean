import PriceBoard.Board
import PriceBoard.Double.Places
import PriceBoard.Seconds
import PriceBoard.Updater.Status

/-!
# Cycles

A cycle quotes all assets of the board, converts the prices and publishes what could be converted.
If quoting fails, the cycle publishes nothing, so that old prices disappear.  A price out of range
is left out and counted.  If converting or publishing fails in any other way, the cycle fails: the
board stays as it is, and so do all figures, except that the failure is counted.

The pause after a cycle is what is left of the interval; after a failed cycle it is a whole
interval.
-/

namespace PriceBoard

/-- What publishes prices, between two cycles. -/
structure Updater where
  assets : List Asset
  interval : Seconds
  status : Status
  board : Board

/-- What a cycle meets: the time, the readings of the clock at its start and at its end, what comes
of quoting, and the fault of publishing, if it fails. -/
structure CycleInput where
  now : Int
  started : Float
  finished : Float
  quoted : Except Fault (List Quotation)
  refusal : Option Fault

/-- What an operation leaves: the updater after it, its result, the boards it published, in their
order, and the lines it logged. -/
structure Effect (α : Type) where
  updater : Updater
  result : Except Fault α
  boards : List Board
  log : List String

namespace Updater

/-- The updater before its first cycle. -/
def initial (assets : List Asset) (interval : Seconds) : Updater :=
  ⟨assets, interval, .initial, .empty⟩

/-- The interval before a cycle when none is configured. -/
def defaultInterval : Seconds :=
  .fraction 10.0

/-! ## Converting -/

/-- The records of quotations, or the fault that ended the conversion, and the notes about prices
out of range. -/
structure Converted where
  records : Except FixedPoint.Fault (List CoinInfo)
  notes : List String

/-- The note about a price out of range. -/
def conversionNote (quotation : Quotation) (fault : FixedPoint.Fault) : String :=
  "[UPDATER][conversion_error] symbol=" ++ quotation.symbol ++ " price=" ++
    quotation.price.text ++ " error=" ++ fault.message

/-- Converts the quotations one by one.  Prices out of range are left out; any other fault ends the
conversion. -/
def convert : List Quotation → Converted
  | [] => ⟨.ok [], []⟩
  | quotation :: others =>
    match CoinInfo.ofQuotation quotation with
    | .ok record =>
      let rest := convert others
      ⟨rest.records.map (record :: ·), rest.notes⟩
    | .error fault =>
      if fault.isRange then
        let rest := convert others
        ⟨rest.records, conversionNote quotation fault :: rest.notes⟩
      else ⟨.error fault, []⟩

/-! ## Publishing -/

/-- Converts and publishes the quotations; the result is how many records there are. -/
def publish (updater : Updater) (now : Int) (quotations : List Quotation)
    (refusal : Option Fault) : Effect Nat :=
  let converted := convert quotations
  match converted.records, refusal with
  | .error fault, _ => ⟨updater, .error (.conversion fault), [], converted.notes⟩
  | .ok _, some fault => ⟨updater, .error fault, [], converted.notes⟩
  | .ok records, none =>
    let status := { updater.status with
      conversionErrors := updater.status.conversionErrors + converted.notes.length
      lastPublished := records.length }
    let board := Board.publish records now
    ⟨{ updater with status := status, board := board }, .ok records.length, [board],
      converted.notes⟩

/-- The note about quoting that failed. -/
def quotingNote (fault : Fault) : String :=
  "[UPDATER][dispatch_error] error=" ++ fault.quoted

/-- Publishes what came of quoting. -/
def update (updater : Updater) (input : CycleInput) : Effect Nat :=
  match input.quoted with
  | .ok quotations => updater.publish input.now quotations input.refusal
  | .error fault =>
    let effect := updater.publish input.now [] input.refusal
    { effect with log := quotingNote fault :: effect.log }

/-! ## Cycles -/

/-- The updater with another activity. -/
def withActivity (updater : Updater) (activity : Activity) : Updater :=
  { updater with status := { updater.status with activity := activity } }

/-- How many decimal places of a duration are recorded. -/
def recordedPlaces : Nat :=
  6

/-- How many decimal places of a duration are logged. -/
def loggedPlaces : Nat :=
  3

/-- The closing line of a cycle. -/
def cycleNote (updater : Updater) (elapsed sleep : Float) : String :=
  "[UPDATER][cycle_done] run=" ++ toString updater.status.runs ++ " published=" ++
    toString updater.status.lastPublished ++ " target_count=" ++
    toString updater.assets.length ++ " elapsed_sec=" ++
    Double.fixedText loggedPlaces elapsed ++ " sleep_sec=" ++ Double.fixedText loggedPlaces sleep

/-- Counts a cycle that took `elapsed` and is followed by a pause of `sleep`. -/
def complete (updater : Updater) (now : Int) (elapsed sleep : Float) : Updater :=
  { updater with
    status := { updater.status with
      runs := updater.status.runs + 1
      lastRun := some now
      lastCycle := some (Double.roundPlaces recordedPlaces elapsed)
      lastSleep := some (Double.roundPlaces recordedPlaces sleep) } }

/-- Runs a cycle; the result is the pause after it. -/
def runOnce (updater : Updater) (input : CycleInput) : Effect Float :=
  let effect := (updater.withActivity .running).update input
  let after := effect.updater.withActivity .idle
  match effect.result with
  | .error fault => ⟨after, .error fault, effect.boards, effect.log⟩
  | .ok _ =>
    match after.interval.toDouble with
    | .error fault => ⟨after, .error fault, effect.boards, effect.log⟩
    | .ok interval =>
      let elapsed := input.finished - input.started
      let sleep := Seconds.remaining interval elapsed
      let done := after.complete input.now elapsed sleep
      ⟨done, .ok sleep, effect.boards, effect.log ++ [done.cycleNote elapsed sleep]⟩

/-- Runs a cycle and counts its failure; the result is the pause after it.  Only an interval that
cannot be waited for is a failure here. -/
def iterate (updater : Updater) (input : CycleInput) : Effect Float :=
  let effect := updater.runOnce input
  match effect.result with
  | .ok sleep => ⟨effect.updater, .ok sleep, effect.boards, effect.log⟩
  | .error fault =>
    let status := effect.updater.status
    ⟨{ effect.updater with status := { status with cycleErrors := status.cycleErrors + 1 } },
      effect.updater.interval.toDouble, effect.boards,
      effect.log ++ ["[UPDATER][cycle_error] error=" ++ fault.quoted]⟩

end Updater

end PriceBoard
