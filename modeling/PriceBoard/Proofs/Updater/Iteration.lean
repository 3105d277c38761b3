import PriceBoard.Proofs.Updater.History

/-!
# The books of the worker

Every iteration of the worker's loop is entered once, as a run or as a failure.  An iteration that
may not publish leaves no other trace: the board, the counts and the times stay as they are, even if
some of its prices could not be converted.  An iteration that publishes counts what it published and
what it could not convert (`accounts_of_iterations`).

## Strategy

A cycle is decided by one question, whether publishing is refused.  `iterate_of_refused` and
`iterate_of_admitted` say completely what the updater is afterwards in the two cases, whatever came
of quoting; what all iterations have in common (`Accounted`) is then read off twice, and kept by
induction.
-/

namespace PriceBoard.Updater

variable {updater : Updater} {input : CycleInput} {length : Float} {fault : Fault}

/-! ## Single iterations -/

/-- The updater after a cycle that failed. -/
def failedOnce (updater : Updater) : Updater :=
  { updater with
    status := { updater.status with
      activity := .idle
      cycleErrors := updater.status.cycleErrors + 1 } }

/-- A refused cycle comes to its end without a trace, whatever was quoted. -/
theorem update_of_refused (updater : Updater) (hrefused : input.refusal = some fault) :
    (updater.update input).updater = updater ∧ (updater.update input).result = .error fault := by
  have hpublish : ∀ quotations,
      (updater.publish input.now quotations input.refusal).updater = updater ∧
        (updater.publish input.now quotations input.refusal).result = .error fault := by
    intro quotations
    simp only [publish, records_convert, hrefused, and_self]
  unfold update
  cases input.quoted with
  | ok quotations => exact hpublish quotations
  | error cause => exact hpublish []

/-- A cycle that is not refused publishes what was quoted, and nothing if quoting failed. -/
theorem update_of_admitted (updater : Updater) (hadmitted : input.refusal = none) :
    (updater.update input).updater = updater.published input.now input.quotations ∧
      (updater.update input).result = .ok (recordsOf input.quotations).length := by
  rw [update_eq updater hadmitted]
  exact ⟨rfl, rfl⟩

/-- A refused cycle is counted as a failure, and the pause after it is a whole interval. -/
theorem iterate_of_refused (updater : Updater) (hrefused : input.refusal = some fault) :
    (updater.iterate input).updater = updater.failedOnce ∧
      (updater.iterate input).result = updater.interval.toDouble := by
  obtain ⟨hupdater, hresult⟩ := update_of_refused (updater.withActivity .running) hrefused
  simp only [iterate, runOnce, hupdater, hresult]
  exact ⟨rfl, rfl⟩

/-- A cycle that publishes is counted as a run, and the pause after it is the rest of the
interval. -/
theorem iterate_of_admitted (hadmitted : input.refusal = none)
    (hinterval : updater.interval.toDouble = .ok length) :
    let elapsed := input.finished - input.started
    let sleep := Seconds.remaining length elapsed
    (updater.iterate input).updater = updater.cycled input.now input.quotations elapsed sleep ∧
      (updater.iterate input).result = .ok sleep := by
  obtain ⟨hupdater, hresult⟩ :=
    update_of_admitted (updater.withActivity .running) hadmitted
  -- neither the activity nor publishing touches the interval
  have hafter : (((updater.withActivity .running).published input.now
      input.quotations).withActivity .idle).interval.toDouble = .ok length := hinterval
  simp only [iterate, runOnce, hupdater, hresult, hafter]
  exact ⟨rfl, trivial⟩

/-- Without a length of the interval no iteration has a pause, whatever the cycle does. -/
theorem result_iterate_of_error (hinterval : updater.interval.toDouble = .error fault)
    (input : CycleInput) :
    (updater.iterate input).result = .error fault := by
  cases hrefusal : input.refusal with
  | some cause => rw [(iterate_of_refused updater hrefusal).2, hinterval]
  | none =>
      obtain ⟨hupdater, hresult⟩ :=
        update_of_admitted (updater.withActivity .running) hrefusal
      have hafter : (((updater.withActivity .running).published input.now
          input.quotations).withActivity .idle).interval.toDouble = .error fault := hinterval
      simp only [iterate, runOnce, hupdater, hresult, hafter]

/-- No iteration changes the interval. -/
theorem interval_iterate (updater : Updater) (input : CycleInput) :
    (updater.iterate input).updater.interval = updater.interval := by
  have hupdate : ((updater.withActivity .running).update input).updater.interval =
      updater.interval := by
    cases hrefusal : input.refusal with
    | some cause => rw [(update_of_refused _ hrefusal).1, withActivity]
    | none => rw [(update_of_admitted _ hrefusal).1, published, withActivity]
  have hrun : (updater.runOnce input).updater.interval = updater.interval := by
    simp only [runOnce]
    split
    · exact hupdate
    · split <;> exact hupdate
  simp only [iterate]
  split <;> exact hrun

/-! ## Any number of iterations -/

/-- The updater rests, and of so many iterations each was a run or a failure. -/
structure Accounted (count : Nat) (updater : Updater) : Prop where
  activity_eq : updater.status.activity = .idle
  runs_add_cycleErrors : updater.status.runs + updater.status.cycleErrors = count

theorem accounted_initial (assets : List Asset) (interval : Seconds) :
    Accounted 0 (initial assets interval) :=
  ⟨rfl, rfl⟩

theorem Accounted.iterate {count : Nat} (haccounted : Accounted count updater)
    (hinterval : updater.interval.toDouble = .ok length) (input : CycleInput) :
    Accounted (count + 1) (updater.iterate input).updater := by
  obtain ⟨-, hcount⟩ := haccounted
  cases hrefusal : input.refusal with
  | some cause =>
      rw [(iterate_of_refused updater hrefusal).1]
      refine ⟨rfl, ?_⟩
      change updater.status.runs + (updater.status.cycleErrors + 1) = count + 1
      omega
  | none =>
      rw [(iterate_of_admitted hrefusal hinterval).1]
      refine ⟨rfl, ?_⟩
      change updater.status.runs + 1 + updater.status.cycleErrors = count + 1
      omega

/-- The updater after iterations of the worker's loop. -/
def afterIterations (updater : Updater) (inputs : List CycleInput) : Updater :=
  updater.runTurns (inputs.map .onWorker)

theorem afterIterations_concat (updater : Updater) (inputs : List CycleInput)
    (input : CycleInput) :
    updater.afterIterations (inputs ++ [input]) =
      ((updater.afterIterations inputs).iterate input).updater := by
  simp [afterIterations, runTurns, afterTurn]

theorem interval_afterIterations (updater : Updater) (inputs : List CycleInput) :
    (updater.afterIterations inputs).interval = updater.interval := by
  induction inputs using List.reverseRecOn with
  | nil => rfl
  | append_singleton inputs input ih => rw [afterIterations_concat, interval_iterate, ih]

theorem Accounted.afterIterations (haccounted : Accounted 0 updater)
    (hinterval : updater.interval.toDouble = .ok length) (inputs : List CycleInput) :
    Accounted inputs.length (updater.afterIterations inputs) := by
  induction inputs using List.reverseRecOn with
  | nil => exact haccounted
  | append_singleton inputs input ih =>
      have hsame : (updater.afterIterations inputs).interval.toDouble = .ok length := by
        rw [interval_afterIterations, hinterval]
      rw [afterIterations_concat, List.length_append]
      exact ih.iterate hsame input

/-- After any iterations the updater is idle, and each of them was counted once.  The next one, if
it may not publish, changes nothing but the count of failures, and is followed by a whole interval.
If it publishes, it is a run and no failure, and what was quoted is either published or counted as
a price without a record. -/
theorem accounts_of_iterations (assets : List Asset) (interval : Seconds) {length : Float}
    (hinterval : interval.toDouble = .ok length) (inputs : List CycleInput) (input : CycleInput) :
    let before := (initial assets interval).afterIterations inputs
    let effect := before.iterate input
    let after := effect.updater
    before.status.activity = .idle ∧
      before.status.runs + before.status.cycleErrors = inputs.length ∧
      (∀ fault, input.refusal = some fault →
        effect.result = .ok length ∧
          after = { before with
            status := { before.status with cycleErrors := before.status.cycleErrors + 1 } }) ∧
      (input.refusal = none →
        effect.result = .ok (Seconds.remaining length (input.finished - input.started)) ∧
          after.board = .publish (recordsOf input.quotations) input.now ∧
          after.status.runs = before.status.runs + 1 ∧
          after.status.cycleErrors = before.status.cycleErrors ∧
          after.status.lastPublished = (recordsOf input.quotations).length ∧
          after.status.conversionErrors = before.status.conversionErrors +
            (input.quotations.filter fun quotation =>
              (CoinInfo.ofQuotation quotation).toOption.isNone).length) := by
  intro before effect after
  have hsame : before.interval.toDouble = .ok length := by
    rw [interval_afterIterations]
    exact hinterval
  obtain ⟨hidle, hcount⟩ := (accounted_initial assets interval).afterIterations hinterval inputs
  refine ⟨hidle, hcount, fun fault hrefused => ?_, fun hadmitted => ?_⟩
  · obtain ⟨hafter, hresult⟩ := iterate_of_refused before hrefused
    refine ⟨hresult.trans hsame, hafter.trans ?_⟩
    -- the updater was idle before, so that this is no change either
    rw [failedOnce, ← hidle]
  · obtain ⟨hafter, hresult⟩ := iterate_of_admitted hadmitted hsame
    refine ⟨hresult, ?_⟩
    rw [← length_notes_convert]
    simp only [after, effect, hafter]
    exact ⟨rfl, rfl, rfl, rfl, rfl⟩

/-- A cycle that publishes, and then one that is refused although a price has no record. -/
theorem accounts_of_iterations_ten :
    let admitted : CycleInput := ⟨1700000000, 0.0, 1.5, .ok [dotAt ⟨false, 5, 0⟩], none⟩
    let refusal : Fault := .general .runtime "storage unavailable"
    let refused : CycleInput :=
      ⟨1700000010, 10.0, 10.5, .ok [dotAt ⟨false, 1, 40⟩], some refusal⟩
    let before := (initial [] (.whole 10)).afterIterations [admitted]
    let after := (before.iterate refused).updater
    (∃ length, (Seconds.whole 10).toDouble = .ok length) ∧ refused.refusal = some refusal ∧
      before.status.runs + before.status.cycleErrors = 1 ∧
      after.status.cycleErrors = before.status.cycleErrors + 1 ∧
      after.status.conversionErrors = before.status.conversionErrors ∧ after.board = before.board := by
  intro admitted refusal refused before after
  obtain ⟨-, hcount, hrefused, -⟩ :=
    accounts_of_iterations [] (.whole 10) rfl [admitted] refused
  obtain ⟨-, hafter⟩ := hrefused refusal rfl
  have hsame : after = { before with
      status := { before.status with cycleErrors := before.status.cycleErrors + 1 } } := hafter
  rw [hsame]
  exact ⟨⟨_, rfl⟩, rfl, hcount, rfl, rfl, rfl⟩

end PriceBoard.Updater
