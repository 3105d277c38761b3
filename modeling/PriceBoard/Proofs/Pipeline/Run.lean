import PriceBoard.Proofs.Pipeline.Printing
import PriceBoard.Proofs.Updater.Cycle

/-!
# No cycle fails

Whatever the web answers, a cycle of the pipeline ends with a pause and replaces the board once.
Faults of providers stop at the source that meets them, or already at the feed; prices without a
fixed-point form stop at the conversion; and as long as the interval can be waited for, only one
thing more can go wrong.  A line about a failing source may be refused by the console.  Then quoting
as a whole has failed, and the cycle ends with an empty board (`cycle_of_refused`).

## Strategy

The pipeline is followed through everything that can happen to it: it may be started and stopped,
and cycles may run by hand or on the worker.  `Sound` is what all of this preserves
(`Sound.after`): the assets and the interval are still those of the settings, and no cycle has
failed.  For a sound pipeline `cycle_eq` describes a cycle completely, whether quoting failed or not,
and `advance_eq_cycle` says that the worker does the same.
-/

namespace PriceBoard

open Provider (Web Request)

theorem Worker.updater_observe (worker : Worker) : worker.observe.updater = worker.updater := by
  unfold observe
  split <;> rfl

namespace Pipeline

/-! ## What can happen -/

/-- What a cycle meets: what its lines are printed on, what answers its requests, the time, and the
readings of the clock at its start and at its end. -/
structure Occasion where
  console : Console
  web : Web
  now : Int
  started : Float
  finished : Float

/-- What can happen to a pipeline. -/
inductive Event where
  | start
  | stop
  | byHand (occasion : Occasion)
  | onWorker (occasion : Occasion)

/-- Quotes all assets, on an occasion. -/
def quoteOn (pipeline : Pipeline) (occasion : Occasion) : Outcome Request Dispatch.Batch :=
  pipeline.quoteAll occasion.console occasion.web occasion.now

/-- What the cycle of an occasion has to publish, and when. -/
def inputOn (pipeline : Pipeline) (occasion : Occasion) : CycleInput :=
  cycleInput (pipeline.quoteOn occasion).result occasion.now occasion.started occasion.finished

/-- A cycle by hand, on an occasion. -/
def cycleOn (pipeline : Pipeline) (occasion : Occasion) : Cycle :=
  pipeline.cycle occasion.console occasion.web occasion.now occasion.started occasion.finished

/-- A cycle on the worker, on an occasion. -/
def advanceOn (pipeline : Pipeline) (occasion : Occasion) :
    Pipeline × List Request × List String :=
  pipeline.advance occasion.console occasion.web occasion.now occasion.started occasion.finished

/-- The pipeline after an event. -/
def after (pipeline : Pipeline) : Event → Pipeline
  | .start => { pipeline with worker := pipeline.worker.start.1 }
  | .stop => { pipeline with worker := pipeline.worker.stop.1 }
  | .byHand occasion => (pipeline.cycleOn occasion).pipeline
  | .onWorker occasion => (pipeline.advanceOn occasion).1

/-- The pipeline after the events. -/
def run (pipeline : Pipeline) (events : List Event) : Pipeline :=
  events.foldl after pipeline

/-! ## Sound pipelines -/

/-- The pipeline still has the assets and the interval of its settings, and no cycle has failed. -/
structure Sound (settings : Settings) (pipeline : Pipeline) : Prop where
  settings_eq : pipeline.settings = settings
  assets_eq : pipeline.worker.updater.assets = settings.currencies
  interval_eq : pipeline.worker.updater.interval = .whole settings.interval
  cycleErrors_eq : pipeline.worker.updater.status.cycleErrors = 0

variable {settings : Settings} {pipeline : Pipeline} {length : Float}

theorem sound_build (settings : Settings) : Sound settings (build settings) :=
  ⟨rfl, rfl, rfl, rfl⟩

/-- The pipeline after a cycle, however quoting ended. -/
def afterBatch (pipeline : Pipeline) (occasion : Occasion) (length : Float) : Pipeline :=
  let elapsed := occasion.finished - occasion.started
  { pipeline with
    worker := { pipeline.worker with
      updater := pipeline.worker.updater.cycled occasion.now (pipeline.inputOn occasion).quotations
        elapsed (Seconds.remaining length elapsed) }
    metrics := pipeline.metricsAfter (pipeline.quoteOn occasion).result }

theorem Sound.afterBatch (hsound : Sound settings pipeline) (occasion : Occasion)
    (length : Float) : Sound settings (pipeline.afterBatch occasion length) :=
  ⟨hsound.settings_eq, hsound.assets_eq, hsound.interval_eq, hsound.cycleErrors_eq⟩

theorem Sound.toDouble_eq (hinterval : (Seconds.whole settings.interval).toDouble = .ok length)
    (hsound : Sound settings pipeline) :
    pipeline.worker.updater.interval.toDouble = .ok length := by
  rw [hsound.interval_eq, hinterval]

/-- What a cycle leaves, if the interval can be waited for. -/
theorem cycle_eq (hinterval : pipeline.worker.updater.interval.toDouble = .ok length)
    (occasion : Occasion) :
    let input := pipeline.inputOn occasion
    let elapsed := occasion.finished - occasion.started
    let sleep := Seconds.remaining length elapsed
    let done := pipeline.worker.updater.cycled occasion.now input.quotations elapsed sleep
    pipeline.cycleOn occasion =
      { pipeline := pipeline.afterBatch occasion length
        result := .ok sleep
        boards := [done.board]
        requests := (pipeline.quoteOn occasion).requests
        log := (pipeline.quoteOn occasion).log ++ (input.quotingNotes ++
          (Updater.convert input.quotations).notes ++ [done.cycleNote elapsed sleep]) } := by
  have hrun : pipeline.worker.updater.runOnce (pipeline.inputOn occasion) = _ :=
    Updater.runOnce_eq rfl hinterval
  unfold inputOn quoteOn at hrun
  simp only [cycleOn, cycle, hrun]
  rfl

/-- A worker that is at work runs the same cycle. -/
theorem advance_eq_cycle (hinterval : pipeline.worker.updater.interval.toDouble = .ok length)
    (halive : pipeline.worker.observe.alive = true) (occasion : Occasion) :
    pipeline.advanceOn occasion =
      ((pipeline.cycleOn occasion).pipeline, (pipeline.cycleOn occasion).requests,
        (pipeline.cycleOn occasion).log) := by
  have hobserve : pipeline.worker.observe = pipeline.worker := by
    -- a worker that is seen at work has nothing to be told
    unfold Worker.observe at halive ⊢
    split at halive
    · cases halive
    · simp_all
  have hworking : pipeline.worker.alive = true := by rwa [hobserve] at halive
  have hrun : pipeline.worker.updater.runOnce (pipeline.inputOn occasion) = _ :=
    Updater.runOnce_eq rfl hinterval
  have hiterate := (Updater.iterate_eq_runOnce (congrArg Effect.result hrun)).trans hrun
  unfold inputOn quoteOn at hiterate
  simp only [advanceOn, advance, Worker.advance, hobserve, hworking, Bool.not_true,
    Bool.false_eq_true, if_false, hiterate, cycle_eq hinterval, afterBatch]
  rfl

/-- A worker that is not at work does nothing. -/
theorem advance_of_not_alive (halive : pipeline.worker.observe.alive = false)
    (occasion : Occasion) :
    pipeline.advanceOn occasion =
      ({ pipeline with worker := pipeline.worker.observe }, [], []) := by
  simp [advanceOn, advance, halive]

/-- Nothing that can happen makes a cycle fail. -/
theorem Sound.after (hinterval : (Seconds.whole settings.interval).toDouble = .ok length)
    (hsound : Sound settings pipeline) (event : Event) :
    Sound settings (pipeline.after event) := by
  have hlength := hsound.toDouble_eq hinterval
  have hcycle : ∀ occasion, Sound settings (pipeline.cycleOn occasion).pipeline := by
    intro occasion
    rw [cycle_eq hlength]
    exact hsound.afterBatch occasion length
  obtain ⟨hsettings, hassets, hspan, herrors⟩ := hsound
  -- starting, stopping and observing leave the updater alone
  cases event with
  | start =>
      simp only [Pipeline.after, Worker.start]
      split
      · exact ⟨hsettings, hassets, hspan, herrors⟩
      · split <;> exact ⟨hsettings, hassets, hspan, herrors⟩
  | stop => exact ⟨hsettings, hassets, hspan, herrors⟩
  | byHand occasion => exact hcycle occasion
  | onWorker occasion =>
      cases halive : pipeline.worker.observe.alive with
      | true =>
          simp only [Pipeline.after, advance_eq_cycle hlength halive]
          exact hcycle occasion
      | false =>
          simp only [Pipeline.after, advance_of_not_alive halive, Worker.observe]
          split <;> exact ⟨hsettings, hassets, hspan, herrors⟩

theorem Sound.run (hinterval : (Seconds.whole settings.interval).toDouble = .ok length)
    (hsound : Sound settings pipeline) (events : List Event) :
    Sound settings (pipeline.run events) := by
  induction events generalizing pipeline with
  | nil => exact hsound
  | cons event others ih => exact ih (hsound.after hinterval event)

/-! ## Cycles -/

/-- A cycle ends with a pause, even if quoting failed: it shows what there is to publish, and counts
itself as a run and not as a failure. -/
theorem cycle_ends (hinterval : (Seconds.whole settings.interval).toDouble = .ok length)
    (hsound : Sound settings pipeline) (occasion : Occasion) :
    let cycle := pipeline.cycleOn occasion
    let updater := cycle.pipeline.worker.updater
    cycle.result = .ok (Seconds.remaining length (occasion.finished - occasion.started)) ∧
      cycle.boards = [updater.board] ∧
      updater.board =
        .publish (Updater.recordsOf (pipeline.inputOn occasion).quotations) occasion.now ∧
      updater.status.runs = pipeline.worker.updater.status.runs + 1 ∧
      updater.status.cycleErrors = 0 := by
  intro cycle updater
  have hcycle := cycle_eq (hsound.toDouble_eq hinterval) occasion
  refine ⟨?_, ?_, ?_, ?_, ?_⟩
  · simp only [cycle, hcycle]
  · simp only [cycle, updater, hcycle]
    rfl
  · simp only [cycle, updater, hcycle]
    rfl
  · simp only [cycle, updater, hcycle]
    rfl
  · simp only [cycle, updater, hcycle]
    exact hsound.cycleErrors_eq

/-- After anything that can happen, a cycle ends with a pause, whatever the web answers, the time is
and the clock reads, as long as what is said about failures can be printed.  Quoting does not fail;
the board is replaced once, by the records of the batch; the cycle is counted as a run and not as a
failure; the updater notes no failure of quoting; and the worker, if it is at work, runs the same
cycle. -/
theorem cycle_succeeds (settings : Settings) (length : Float)
    (hinterval : (Seconds.whole settings.interval).toDouble = .ok length) (events : List Event)
    (occasion : Occasion) (hprintable : Printable occasion.console occasion.web) :
    let pipeline := (build settings).run events
    let cycle := pipeline.cycleOn occasion
    let updater := cycle.pipeline.worker.updater
    ∃ batch, (pipeline.quoteOn occasion).result = .ok batch ∧
      cycle.result = .ok (Seconds.remaining length (occasion.finished - occasion.started)) ∧
      cycle.boards = [updater.board] ∧
      updater.board = .publish (Updater.recordsOf batch.quotations) occasion.now ∧
      updater.status.runs = pipeline.worker.updater.status.runs + 1 ∧
      updater.status.cycleErrors = 0 ∧
      cycle.pipeline.metrics = batch.metrics ∧
      "custom" ∉ batch.metrics.failed ∧
      (∃ notes, cycle.log = (pipeline.quoteOn occasion).log ++ notes ∧
        ∀ fault, Updater.quotingNote fault ∉ notes) ∧
      (pipeline.worker.observe.alive = true →
        pipeline.advanceOn occasion = (cycle.pipeline, cycle.requests, cycle.log)) := by
  intro pipeline cycle updater
  have hsound : Sound settings pipeline := (sound_build settings).run hinterval events
  have hlength := hsound.toDouble_eq hinterval
  have hquoted : (pipeline.quoteOn occasion).result = _ := result_quoteAll hprintable
  have hcycle := cycle_eq hlength occasion
  obtain ⟨hresult, hboards, hboard, hruns, herrors⟩ := cycle_ends hinterval hsound occasion
  -- what was quoted is what there is to publish
  have hinput : (pipeline.inputOn occasion).quoted = .ok _ :=
    congrArg (Except.map Dispatch.Batch.quotations) hquoted
  refine ⟨_, hquoted, hresult, hboards, ?_, hruns, herrors, ?_, custom_notMem_failed _ _ _ _, ?_,
    fun halive => advance_eq_cycle hlength halive occasion⟩
  · rw [hboard, CycleInput.quotations, hinput]
  · simp only [cycle, hcycle, afterBatch, hquoted]
    rfl
  · simp only [cycle, hcycle]
    refine ⟨_, rfl, fun fault hmem => ?_⟩
    rw [CycleInput.quotingNotes, hinput, List.nil_append] at hmem
    rcases List.mem_append.mp hmem with hnote | hdone
    · exact Updater.quotingNote_notMem_notes _ fault hnote
    · exact Updater.quotingNote_ne_cycleNote _ _ _ fault (List.mem_singleton.mp hdone)

/-! ## A silent web -/

/-- An occasion on which nothing answers and the clock stands still. -/
def silentOccasion : Occasion where
  console := .strict
  web := fun _ => .error (.timeout "no answer")
  now := 1700000000
  started := 0.0
  finished := 0.0

theorem printable_silentOccasion : Printable silentOccasion.console silentOccasion.web :=
  .inr fun _ => Spelling.isText_ofText _

theorem cycle_succeeds_in_silence :
    (∃ length, (Seconds.whole plainSettings.interval).toDouble = .ok length) ∧
      Printable silentOccasion.console silentOccasion.web ∧
      let pipeline := (build plainSettings).run [.start, .onWorker silentOccasion]
      let cycle := pipeline.cycleOn silentOccasion
      cycle.boards = [cycle.pipeline.worker.updater.board] ∧
        cycle.pipeline.worker.updater.status.cycleErrors = 0 := by
  obtain ⟨batch, -, -, hboards, -, -, herrors, -⟩ :=
    cycle_succeeds plainSettings _ rfl [.start, .onWorker silentOccasion] silentOccasion
      printable_silentOccasion
  exact ⟨⟨_, rfl⟩, printable_silentOccasion, hboards, herrors⟩

/-! ## Lines that are refused -/

/-- If a line about a failing source is refused, the cycle ends nevertheless.  It notes that quoting
failed, empties the board, and leaves the figures about the batch as they were. -/
theorem cycle_of_refused (hinterval : (Seconds.whole settings.interval).toDouble = .ok length)
    (hsound : Sound settings pipeline) {occasion : Occasion} {fault : Fault}
    (hrefused : (pipeline.quoteOn occasion).result = .error fault) :
    let cycle := pipeline.cycleOn occasion
    cycle.result = .ok (Seconds.remaining length (occasion.finished - occasion.started)) ∧
      cycle.boards = [.publish [] occasion.now] ∧
      cycle.pipeline.metrics = pipeline.metrics ∧
      Updater.quotingNote fault ∈ cycle.log := by
  intro cycle
  have hcycle := cycle_eq (hsound.toDouble_eq hinterval) occasion
  obtain ⟨hresult, hboards, hboard, -, -⟩ := cycle_ends hinterval hsound occasion
  have hinput : (pipeline.inputOn occasion).quoted = .error fault :=
    congrArg (Except.map Dispatch.Batch.quotations) hrefused
  refine ⟨hresult, ?_, ?_, ?_⟩
  · rw [hboards, hboard, CycleInput.quotations, hinput]
    rfl
  · simp only [cycle, hcycle, afterBatch, hrefused]
    rfl
  · simp only [cycle, hcycle, CycleInput.quotingNotes, hinput]
    simp

end Pipeline

end PriceBoard
