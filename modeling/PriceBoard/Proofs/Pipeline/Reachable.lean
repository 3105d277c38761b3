import PriceBoard.Proofs.Pipeline.Obtained
import PriceBoard.Proofs.Pipeline.Run
import PriceBoard.Proofs.Updater.History

/-!
# What can be seen on a board

Whatever has happened to a pipeline, its board is empty or it is the board of one of the cycles: it
shows what the assets obtained then, of each the price above zero that has a record
(`get?_boardOn`).  For this it does not matter whether the interval can be waited for.  A cycle whose
batch broke off, since the line about a failing source was refused, shows nothing
(`obtained_of_boardOn`).

## Strategy

`Serving` is kept by every event, and says all that later cycles depend on: the pipeline has the
settings it was built with and the assets of these settings.  So the cycle that comes next is known
(`board_cycleOn`), and so is every cycle that has been.
-/

namespace PriceBoard.Pipeline

open Provider CoinInfo

variable {settings : Settings} {occasion : Occasion} {occasions : List Occasion}
  {pipeline : Pipeline} {asset key : Asset} {record : CoinInfo}

/-! ## Single cycles -/

/-- What there is to be quoted on the occasion. -/
def batchOn (settings : Settings) (occasion : Occasion) : Dispatch.Batch :=
  Dispatch.batch (sources settings occasion.web occasion.now) settings.currencies

/-- The batch on the occasion comes to its end. -/
def Completed (settings : Settings) (occasion : Occasion) : Prop :=
  ∃ found, ((build settings).quoteOn occasion).result = .ok found

/-- The board after a cycle on the occasion. -/
def boardOn (settings : Settings) (occasion : Occasion) : Board :=
  .publish (Updater.recordsOf ((build settings).inputOn occasion).quotations) occasion.now

theorem completed_of_printable (settings : Settings)
    (hprintable : Printable occasion.console occasion.web) : Completed settings occasion :=
  ⟨_, result_quoteAll hprintable⟩

theorem Completed.result_quoteOn (hcompleted : Completed settings occasion) :
    ((build settings).quoteOn occasion).result = .ok (batchOn settings occasion) := by
  obtain ⟨found, hfound⟩ := hcompleted
  rw [hfound, (Dispatch.result_run_eq_ok_iff.mp hfound).2]
  rfl

/-- In a batch that comes to its end every source is called. -/
theorem Completed.requests_quoteOn (hcompleted : Completed settings occasion) :
    ((build settings).quoteOn occasion).requests = Dispatch.requestsOf
      (Dispatch.partition (sources settings occasion.web occasion.now) settings.currencies).1 :=
  Dispatch.requests_run_of_reported (Dispatch.result_run_eq_ok_iff.mp hcompleted.result_quoteOn).1

theorem Completed.quotations_inputOn (hcompleted : Completed settings occasion) :
    ((build settings).inputOn occasion).quotations = (batchOn settings occasion).quotations := by
  rw [inputOn, hcompleted.result_quoteOn]
  rfl

/-- A batch that breaks off leaves nothing to be published. -/
theorem quotations_inputOn_of_not_completed (hbroken : ¬ Completed settings occasion) :
    ((build settings).inputOn occasion).quotations = [] := by
  rw [inputOn]
  cases hquoted : ((build settings).quoteOn occasion).result with
  | ok found => exact absurd ⟨found, hquoted⟩ hbroken
  | error fault => rfl

/-- What the owner of the asset has for it on the occasion. -/
def obtainedOn? (settings : Settings) (occasion : Occasion) : Asset → Option Quotation :=
  obtained? settings (answersIn settings occasion.web occasion.now settings.currencies)
    occasion.now settings.currencies

theorem perm_batchOn (settings : Settings) (occasion : Occasion) :
    (batchOn settings occasion).quotations.Perm
      ((distinct settings.currencies).filterMap fun asset =>
        (obtainedOn? settings occasion asset).filter
          fun quotation => quotation.price.isPositive) := by
  unfold batchOn obtainedOn?
  rw [← quotations_batch_answersIn]
  exact perm_batch

theorem mem_batchOn {quotation : Quotation} :
    quotation ∈ (batchOn settings occasion).quotations ↔
      ∃ asset ∈ settings.currencies, obtainedOn? settings occasion asset = some quotation ∧
        0 < quotation.price.value := by
  simp only [(perm_batchOn settings occasion).mem_iff, List.mem_filterMap, mem_distinct,
    Option.filter_eq_some_iff, Numeral.isPositive_iff]

/-- The board of a batch that came to its end shows what the assets obtain. -/
theorem get?_boardOn (hcompleted : Completed settings occasion) :
    (boardOn settings occasion).get? key = some record ↔
      ∃ asset ∈ settings.currencies, ∃ quotation,
        obtainedOn? settings occasion asset = some quotation ∧ 0 < quotation.price.value ∧
          ofQuotation quotation = .ok record ∧ keyOf quotation = key := by
  have hshown : (boardOn settings occasion).get? key = some record ↔
      ∃ quotation ∈ (batchOn settings occasion).quotations,
        ofQuotation quotation = .ok record ∧ record.asset = key := by
    rw [boardOn, hcompleted.quotations_inputOn, batchOn, ← quotations_batch_answersIn]
    exact get?_publish_batch
  rw [hshown]
  constructor
  · rintro ⟨quotation, hquotation, hrecord, hkey⟩
    obtain ⟨asset, hasset, hobtained, hpos⟩ := mem_batchOn.mp hquotation
    exact ⟨asset, hasset, quotation, hobtained, hpos, hrecord, (asset_ofQuotation hrecord) ▸ hkey⟩
  · rintro ⟨asset, hasset, quotation, hobtained, hpos, hrecord, hkey⟩
    exact ⟨quotation, mem_batchOn.mpr ⟨asset, hasset, hobtained, hpos⟩, hrecord,
      (asset_ofQuotation hrecord).trans hkey⟩

/-- No board shows anything else. -/
theorem obtained_of_boardOn (hshown : (boardOn settings occasion).get? key = some record) :
    ∃ asset ∈ settings.currencies, ∃ quotation,
      obtainedOn? settings occasion asset = some quotation ∧ 0 < quotation.price.value ∧
        ofQuotation quotation = .ok record ∧ keyOf quotation = key := by
  by_cases hcompleted : Completed settings occasion
  · exact (get?_boardOn hcompleted).mp hshown
  · rw [boardOn, quotations_inputOn_of_not_completed hcompleted] at hshown
    cases hshown

/-- The occasion of an event that is a cycle. -/
def Event.occasion? : Event → Option Occasion
  | .start | .stop => none
  | .byHand occasion | .onWorker occasion => some occasion

/-- The pipeline has the settings and their assets, and a board of one of the occasions. -/
structure Serving (settings : Settings) (occasions : List Occasion) (pipeline : Pipeline) :
    Prop where
  settings_eq : pipeline.settings = settings
  assets_eq : pipeline.worker.updater.assets = settings.currencies
  board_eq : pipeline.worker.updater.board = .empty ∨
    ∃ occasion ∈ occasions, pipeline.worker.updater.board = boardOn settings occasion

theorem serving_build (settings : Settings) : Serving settings [] (build settings) :=
  ⟨rfl, rfl, .inl rfl⟩

theorem Serving.quoteOn_eq (hserving : Serving settings occasions pipeline) (occasion : Occasion) :
    pipeline.quoteOn occasion = (build settings).quoteOn occasion := by
  rw [quoteOn, quoteAll, hserving.settings_eq, hserving.assets_eq]
  rfl

theorem Serving.inputOn_eq (hserving : Serving settings occasions pipeline) (occasion : Occasion) :
    pipeline.inputOn occasion = (build settings).inputOn occasion := by
  rw [inputOn, hserving.quoteOn_eq, inputOn]

/-- The occasion of the cycle that an event is, if it is one: a worker that is not at work runs
none. -/
def runsOn? (pipeline : Pipeline) : Event → Option Occasion
  | .start | .stop => none
  | .byHand occasion => some occasion
  | .onWorker occasion => if pipeline.worker.observe.alive then some occasion else none

theorem updater_after_of_runsOn?_eq_none {event : Event} (hruns : pipeline.runsOn? event = none) :
    (pipeline.after event).worker.updater = pipeline.worker.updater := by
  cases event with
  | start =>
      simp only [after, Worker.start]
      split
      · rfl
      · split <;> rfl
  | stop => rfl
  | byHand occasion => cases hruns
  | onWorker occasion =>
      have halive : pipeline.worker.observe.alive = false := by simpa [runsOn?] using hruns
      rw [after, advance_of_not_alive halive]
      exact Worker.updater_observe pipeline.worker

/-- A cycle, by hand or on the worker, runs the updater once on what was quoted, and its figures are
shown if its batch came to its end. -/
theorem Serving.after_of_runsOn? (hserving : Serving settings occasions pipeline) {event : Event}
    (hruns : pipeline.runsOn? event = some occasion) :
    event.occasion? = some occasion ∧
      (pipeline.after event).metrics =
        pipeline.metricsAfter ((build settings).quoteOn occasion).result ∧
      ((pipeline.after event).worker.updater =
          (pipeline.worker.updater.runOnce ((build settings).inputOn occasion)).updater ∨
        (pipeline.after event).worker.updater =
          (pipeline.worker.updater.iterate ((build settings).inputOn occasion)).updater) := by
  cases event with
  | start => cases hruns
  | stop => cases hruns
  | byHand other =>
      cases hruns
      rw [← hserving.quoteOn_eq, ← hserving.inputOn_eq]
      exact ⟨rfl, rfl, .inl rfl⟩
  | onWorker other =>
      obtain ⟨halive, rfl⟩ : pipeline.worker.observe.alive = true ∧ other = occasion := by
        simpa [runsOn?] using hruns
      rw [← hserving.quoteOn_eq, ← hserving.inputOn_eq]
      refine ⟨rfl, ?_, .inr ?_⟩
      · simp only [Pipeline.after, advanceOn, advance, halive, Bool.not_true, Bool.false_eq_true,
          if_false, quoteOn]
      · simp only [Pipeline.after, advanceOn, advance, halive, Bool.not_true, Bool.false_eq_true,
          if_false, Worker.advance, Worker.updater_observe, inputOn, quoteOn]
        split <;> rfl

/-- An event leaves the updater alone, or it is a cycle. -/
theorem Serving.updater_after (hserving : Serving settings occasions pipeline) (event : Event) :
    (pipeline.after event).worker.updater = pipeline.worker.updater ∨
      ∃ occasion, event.occasion? = some occasion ∧
        ((pipeline.after event).worker.updater =
            (pipeline.worker.updater.runOnce ((build settings).inputOn occasion)).updater ∨
          (pipeline.after event).worker.updater =
            (pipeline.worker.updater.iterate ((build settings).inputOn occasion)).updater) := by
  cases hruns : pipeline.runsOn? event with
  | none => exact .inl (updater_after_of_runsOn?_eq_none hruns)
  | some occasion =>
      obtain ⟨hoccasion, -, hcycle⟩ := hserving.after_of_runsOn? hruns
      exact .inr ⟨occasion, hoccasion, hcycle⟩

/-- Every event keeps the settings and the assets, and a cycle shows its own board. -/
theorem Serving.after (hserving : Serving settings occasions pipeline) (event : Event) :
    Serving settings (occasions ++ event.occasion?.toList) (pipeline.after event) := by
  have hsettings : (pipeline.after event).settings = settings := by
    rw [← hserving.settings_eq]
    cases event with
    | start => rfl
    | stop => rfl
    | byHand occasion => rfl
    | onWorker occasion =>
        simp only [Pipeline.after, advanceOn, advance]
        split <;> rfl
  rcases hserving.updater_after event with hsame | ⟨occasion, hoccasion, hcycle⟩
  · refine ⟨hsettings, by rw [hsame, hserving.assets_eq], ?_⟩
    rw [hsame]
    rcases hserving.board_eq with hempty | ⟨occasion, hoccasion, hboard⟩
    · exact .inl hempty
    · exact .inr ⟨occasion, List.mem_append_left _ hoccasion, hboard⟩
  · have hassets : (pipeline.after event).worker.updater.assets = settings.currencies := by
      rcases hcycle with hcycle | hcycle
      · rw [hcycle, Updater.assets_runOnce, hserving.assets_eq]
      · rw [hcycle, Updater.assets_iterate, hserving.assets_eq]
    have hboard : (pipeline.after event).worker.updater.board = boardOn settings occasion := by
      have hrun : (pipeline.worker.updater.runOnce
          ((build settings).inputOn occasion)).updater.board = boardOn settings occasion :=
        Updater.board_runOnce rfl _
      rcases hcycle with hcycle | hcycle
      · rw [hcycle]
        exact hrun
      · rw [hcycle, Updater.board_iterate]
        exact hrun
    exact ⟨hsettings, hassets, .inr ⟨occasion, by simp [hoccasion], hboard⟩⟩

theorem Serving.run (hserving : Serving settings occasions pipeline) (events : List Event) :
    Serving settings (occasions ++ events.filterMap Event.occasion?) (pipeline.run events) := by
  induction events generalizing pipeline occasions with
  | nil =>
      rw [List.filterMap_nil, List.append_nil]
      exact hserving
  | cons event others ih =>
      have hoccasions : occasions ++ (event :: others).filterMap Event.occasion? =
          occasions ++ event.occasion?.toList ++ others.filterMap Event.occasion? := by
        cases hoccasion : event.occasion? <;> simp [hoccasion]
      rw [hoccasions]
      exact ih (hserving.after event)

theorem serving_run (settings : Settings) (events : List Event) :
    Serving settings (events.filterMap Event.occasion?) ((build settings).run events) := by
  have hrun := (serving_build settings).run events
  rwa [List.nil_append] at hrun

/-! ## The next cycle -/

theorem Serving.updater_cycleOn (hserving : Serving settings occasions pipeline)
    (occasion : Occasion) :
    (pipeline.cycleOn occasion).pipeline.worker.updater =
      (pipeline.worker.updater.runOnce ((build settings).inputOn occasion)).updater := by
  rw [← hserving.inputOn_eq]
  rfl

theorem Serving.board_cycleOn (hserving : Serving settings occasions pipeline)
    (occasion : Occasion) :
    (pipeline.cycleOn occasion).pipeline.worker.updater.board = boardOn settings occasion := by
  rw [hserving.updater_cycleOn]
  exact Updater.board_runOnce rfl _

/-- A cycle by hand, alone. -/
theorem board_run_byHand (settings : Settings) (occasion : Occasion) :
    ((build settings).run [.byHand occasion]).worker.updater.board = boardOn settings occasion := by
  rw [run, List.foldl_cons, List.foldl_nil, Pipeline.after, (serving_build settings).board_cycleOn]

end PriceBoard.Pipeline
