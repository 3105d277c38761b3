import PriceBoard.Proofs.FixedPoint
import PriceBoard.Updater.Cycle

/-!
# What a cycle leaves

A cycle can fail in three ways only: its conversion ends early, publishing is refused, or the
interval cannot be waited for.  The first never happens, because a price without a fixed-point form
is always out of range (`isRange_of_ofNumeral`).  Without the others a cycle is described completely
by `runOnce_eq`: it publishes once, counts itself as a run and not as a failure, and returns the
pause.  Quoting that failed is noted, and leaves nothing to be published.
-/

namespace PriceBoard

/-! ## What a cycle meets -/

namespace CycleInput

/-- What a cycle has to publish: what was quoted, and nothing if quoting failed. -/
def quotations (input : CycleInput) : List Quotation :=
  match input.quoted with
  | .ok quotations => quotations
  | .error _ => []

/-- What is noted about quoting. -/
def quotingNotes (input : CycleInput) : List String :=
  match input.quoted with
  | .ok _ => []
  | .error fault => [Updater.quotingNote fault]

end CycleInput

namespace Updater

/-! ## Converting -/

/-- The records that a list of quotations is published as. -/
def recordsOf (quotations : List Quotation) : List CoinInfo :=
  quotations.filterMap fun quotation => (CoinInfo.ofQuotation quotation).toOption

theorem mem_recordsOf {quotations : List Quotation} {record : CoinInfo} :
    record ∈ recordsOf quotations ↔
      ∃ quotation ∈ quotations, CoinInfo.ofQuotation quotation = .ok record := by
  simp only [recordsOf, List.mem_filterMap]
  refine exists_congr fun quotation => and_congr_right fun _ => ?_
  cases CoinInfo.ofQuotation quotation <;> simp [Except.toOption]

theorem isRange_of_ofQuotation {quotation : Quotation} {fault : FixedPoint.Fault}
    (hfault : CoinInfo.ofQuotation quotation = .error fault) : fault.isRange = true := by
  cases hprice : FixedPoint.ofNumeral quotation.price with
  | ok price => simp [CoinInfo.ofQuotation, hprice, Except.map] at hfault
  | error cause =>
      simp only [CoinInfo.ofQuotation, hprice, Except.map] at hfault
      cases hfault
      exact FixedPoint.isRange_of_ofNumeral hprice

/-- Every conversion comes to its end. -/
theorem records_convert (quotations : List Quotation) :
    (convert quotations).records = .ok (recordsOf quotations) := by
  induction quotations with
  | nil => rfl
  | cons quotation others ih =>
      -- a price that has no record is out of range, so the conversion goes on
      cases hrecord : CoinInfo.ofQuotation quotation with
      | ok record =>
          simp [convert, recordsOf, hrecord, ih, Except.map, Except.toOption]
      | error fault =>
          simp [convert, recordsOf, hrecord, ih, isRange_of_ofQuotation hrecord, Except.toOption]

/-- The prices that are noted are those without a record. -/
theorem length_notes_convert (quotations : List Quotation) :
    (convert quotations).notes.length =
      (quotations.filter fun quotation =>
        (CoinInfo.ofQuotation quotation).toOption.isNone).length := by
  induction quotations with
  | nil => rfl
  | cons quotation others ih =>
      cases hrecord : CoinInfo.ofQuotation quotation with
      | ok record => simpa [convert, hrecord, Except.toOption] using ih
      | error fault =>
          simpa [convert, hrecord, isRange_of_ofQuotation hrecord, Except.toOption] using ih

/-! ## Whole cycles -/

/-- The updater after it has published the quotations. -/
def published (updater : Updater) (now : Int) (quotations : List Quotation) : Updater :=
  { updater with
    status := { updater.status with
      conversionErrors := updater.status.conversionErrors + (convert quotations).notes.length
      lastPublished := (recordsOf quotations).length }
    board := .publish (recordsOf quotations) now }

theorem publish_eq (updater : Updater) (now : Int) (quotations : List Quotation) :
    updater.publish now quotations none =
      ⟨updater.published now quotations, .ok (recordsOf quotations).length,
        [.publish (recordsOf quotations) now], (convert quotations).notes⟩ := by
  simp only [publish, records_convert, published]

/-- A cycle that may publish shows what it has to publish, and notes quoting that failed. -/
theorem update_eq (updater : Updater) {input : CycleInput} (hadmitted : input.refusal = none) :
    updater.update input =
      ⟨updater.published input.now input.quotations, .ok (recordsOf input.quotations).length,
        [.publish (recordsOf input.quotations) input.now],
        input.quotingNotes ++ (convert input.quotations).notes⟩ := by
  unfold update CycleInput.quotations CycleInput.quotingNotes
  rw [hadmitted]
  cases input.quoted with
  | ok quotations => exact publish_eq updater input.now quotations
  | error fault => simp only [publish_eq, List.singleton_append]

/-- The updater after a complete cycle. -/
def cycled (updater : Updater) (now : Int) (quotations : List Quotation) (elapsed sleep : Float) :
    Updater :=
  ((updater.published now quotations).withActivity .idle).complete now elapsed sleep

section Admitted

variable {input : CycleInput} (hadmitted : input.refusal = none)

include hadmitted

/-- A cycle for which there is an interval, and that may publish. -/
theorem runOnce_eq {updater : Updater} {interval : Float}
    (hinterval : updater.interval.toDouble = .ok interval) :
    let elapsed := input.finished - input.started
    let sleep := Seconds.remaining interval elapsed
    let done := updater.cycled input.now input.quotations elapsed sleep
    updater.runOnce input =
      ⟨done, .ok sleep, [done.board], input.quotingNotes ++ (convert input.quotations).notes ++
        [done.cycleNote elapsed sleep]⟩ := by
  -- neither the activity nor publishing touches the interval
  have hafter : (((updater.withActivity .running).published input.now
      input.quotations).withActivity .idle).interval.toDouble = .ok interval := hinterval
  simp only [runOnce, update_eq _ hadmitted, hafter]
  rfl

/-- Even if the interval cannot be waited for, the board shows the quotations. -/
theorem board_runOnce (updater : Updater) :
    (updater.runOnce input).updater.board = .publish (recordsOf input.quotations) input.now := by
  simp only [runOnce, update_eq _ hadmitted]
  split <;> rfl

theorem lastPublished_runOnce (updater : Updater) :
    (updater.runOnce input).updater.status.lastPublished =
      (recordsOf input.quotations).length := by
  simp only [runOnce, update_eq _ hadmitted]
  split <;> rfl

end Admitted

theorem lastPublished_iterate (updater : Updater) (input : CycleInput) :
    (updater.iterate input).updater.status.lastPublished =
      (updater.runOnce input).updater.status.lastPublished := by
  simp only [iterate]
  split <;> rfl

theorem assets_publish (updater : Updater) (now : Int) (quotations : List Quotation)
    (refusal : Option Fault) :
    (updater.publish now quotations refusal).updater.assets = updater.assets := by
  unfold publish
  cases refusal <;> simp [records_convert]

/-- No cycle changes the assets. -/
theorem assets_runOnce (updater : Updater) (input : CycleInput) :
    (updater.runOnce input).updater.assets = updater.assets := by
  have hupdate : ((updater.withActivity .running).update input).updater.assets =
      updater.assets := by
    unfold update
    cases input.quoted <;> exact assets_publish _ _ _ _
  simp only [runOnce]
  split
  · exact hupdate
  · split <;> exact hupdate

theorem assets_iterate (updater : Updater) (input : CycleInput) :
    (updater.iterate input).updater.assets = updater.assets := by
  simp only [iterate]
  split <;> exact assets_runOnce updater input

/-- Nothing is left to count as a failure. -/
theorem iterate_eq_runOnce {updater : Updater} {input : CycleInput} {sleep : Float}
    (hsleep : (updater.runOnce input).result = .ok sleep) :
    updater.iterate input = updater.runOnce input := by
  cases heffect : updater.runOnce input with
  | mk after result boards log =>
      rw [heffect] at hsleep
      cases hsleep
      simp only [iterate, heffect]

/-! ## Notes -/

/-- A line that opens in another way is no note about quoting. -/
private theorem quotingNote_ne_append {opening : String} (hlength : 11 ≤ opening.toList.length)
    (hopening : "[UPDATER][d".toList ≠ opening.toList.take 11) (rest : String) (fault : Fault) :
    quotingNote fault ≠ opening ++ rest := by
  intro heq
  -- the equation of a definition by a text evaluates the text; `delta` does without it
  delta quotingNote at heq
  have htake := congrArg (fun line : String => line.toList.take 11) heq
  simp only [String.toList_append] at htake
  rw [List.take_append_of_le_length (by simp), List.take_append_of_le_length hlength] at htake
  exact hopening htake

theorem quotingNote_ne_conversionNote (quotation : Quotation) (cause : FixedPoint.Fault)
    (fault : Fault) : quotingNote fault ≠ conversionNote quotation cause := by
  delta conversionNote
  simp only [String.append_assoc]
  exact quotingNote_ne_append (by simp) (by simp) _ fault

theorem quotingNote_ne_cycleNote (updater : Updater) (elapsed sleep : Float) (fault : Fault) :
    quotingNote fault ≠ updater.cycleNote elapsed sleep := by
  delta cycleNote
  simp only [String.append_assoc]
  exact quotingNote_ne_append (by simp) (by simp) _ fault

/-- What is noted about a price is never taken for a failure of quoting. -/
theorem quotingNote_notMem_notes (quotations : List Quotation) (fault : Fault) :
    quotingNote fault ∉ (convert quotations).notes := by
  induction quotations with
  | nil => simp [convert]
  | cons quotation others ih =>
      cases hrecord : CoinInfo.ofQuotation quotation with
      | ok record => simpa [convert, hrecord] using ih
      | error cause =>
          have hnote := quotingNote_ne_conversionNote quotation cause fault
          simpa [convert, hrecord, isRange_of_ofQuotation hrecord, hnote] using ih

end Updater

end PriceBoard
