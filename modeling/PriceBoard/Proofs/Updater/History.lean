import Mathlib.Data.List.Induction
import PriceBoard.Proofs.Board
import PriceBoard.Proofs.CoinInfo
import PriceBoard.Proofs.Outcome
import PriceBoard.Proofs.Updater.Cycle

/-!
# What the board shows after any history

Cycles follow one another in any mixture: some quote much, some little, some fail at quoting, some
are refused at publishing.  The board does not add up what they did.  It shows the last cycle that
was not refused and nothing else: of every key the last quotation that could be converted
(`get?_runTurns`), and before the first such cycle it is empty.

## Strategy

What one cycle does to the board is said once, in `board_afterTurn`: it replaces all of the board or
nothing.  A history then is an induction from its end (`board_runTurns`), and what is left is to
read the board of a single cycle.  There the records are in the order of the quotations, and of two
with one key the later one counts.
-/

namespace PriceBoard

open CoinInfo

/-! ## Single cycles -/

namespace CycleInput

/-- Whether publishing is not refused. -/
def publishes (input : CycleInput) : Bool :=
  input.refusal.isNone

end CycleInput

namespace Updater

/-- A cycle, by hand or on the worker. -/
inductive Turn where
  | byHand (input : CycleInput)
  | onWorker (input : CycleInput)

/-- What the cycle meets. -/
def Turn.input : Turn → CycleInput
  | byHand input => input
  | onWorker input => input

/-- The updater after a cycle. -/
def afterTurn (updater : Updater) : Turn → Updater
  | .byHand input => (updater.runOnce input).updater
  | .onWorker input => (updater.iterate input).updater

/-- The updater after the cycles. -/
def runTurns (updater : Updater) (turns : List Turn) : Updater :=
  turns.foldl afterTurn updater

variable {updater : Updater}

theorem board_update (input : CycleInput) :
    (updater.update input).updater.board =
      if input.publishes then .publish (recordsOf input.quotations) input.now
      else updater.board := by
  have hpublish : ∀ quotations, (updater.publish input.now quotations
      input.refusal).updater.board =
        if input.publishes then .publish (recordsOf quotations) input.now
        else updater.board := by
    intro quotations
    unfold publish CycleInput.publishes
    cases input.refusal <;> simp [records_convert]
  unfold update CycleInput.quotations
  cases input.quoted with
  | ok quotations => exact hpublish quotations
  | error fault => exact hpublish []

/-- Neither counting a cycle nor waiting for the next one touches the board. -/
theorem board_runOnce_eq (input : CycleInput) :
    (updater.runOnce input).updater.board =
      ((updater.withActivity .running).update input).updater.board := by
  simp only [runOnce]
  split
  · rfl
  · split <;> rfl

theorem board_iterate (input : CycleInput) :
    (updater.iterate input).updater.board = (updater.runOnce input).updater.board := by
  simp only [iterate]
  split <;> rfl

/-- A cycle replaces the whole board, or it leaves the board as it is. -/
theorem board_afterTurn (turn : Turn) :
    (updater.afterTurn turn).board =
      if turn.input.publishes then .publish (recordsOf turn.input.quotations) turn.input.now
      else updater.board := by
  have hcycle : ∀ input, (updater.runOnce input).updater.board =
      if input.publishes then .publish (recordsOf input.quotations) input.now
      else updater.board := by
    intro input
    rw [board_runOnce_eq, board_update]
    rfl
  cases turn with
  | byHand input => exact hcycle input
  | onWorker input => exact (board_iterate input).trans (hcycle input)

/-! ## Histories -/

/-- The last cycle that was not refused, if there is one. -/
def lastPublished? (turns : List Turn) : Option CycleInput :=
  ((turns.map Turn.input).filter CycleInput.publishes).getLast?

theorem lastPublished?_concat (turns : List Turn) (turn : Turn) :
    lastPublished? (turns ++ [turn]) =
      if turn.input.publishes then some turn.input else lastPublished? turns := by
  unfold lastPublished?
  rw [List.map_append, List.filter_append, List.getLast?_append]
  cases hpublishes : turn.input.publishes <;> simp [hpublishes]

/-- The board is that of the last cycle that was not refused. -/
theorem board_runTurns (turns : List Turn) :
    (updater.runTurns turns).board =
      (lastPublished? turns).elim updater.board fun input =>
        .publish (recordsOf input.quotations) input.now := by
  -- whatever the last cycle did comes on top of the history before it
  induction turns using List.reverseRecOn with
  | nil => rfl
  | append_singleton turns turn ih =>
      have hlast : updater.runTurns (turns ++ [turn]) =
          (updater.runTurns turns).afterTurn turn := by
        simp [runTurns]
      rw [hlast, board_afterTurn, lastPublished?_concat]
      cases turn.input.publishes with
      | true => rfl
      | false => exact ih

/-! ## The last quotation of a key -/

/-- The record is that of the last quotation with the key that can be converted. -/
def LastConverted (quotations : List Quotation) (key : Asset) (record : CoinInfo) : Prop :=
  ∃ before quotation after, quotations = before ++ quotation :: after ∧
    keyOf quotation = key ∧ ofQuotation quotation = .ok record ∧
    ∀ later ∈ after, keyOf later = key → ∀ other, ofQuotation later ≠ .ok other

/-- The board of a cycle shows the last converted quotations. -/
theorem get?_publish_recordsOf (quotations : List Quotation) (now : Int) {key : Asset}
    {record : CoinInfo} :
    (Board.publish (recordsOf quotations) now).get? key = some record ↔
      LastConverted quotations key record := by
  have hconverts : ∀ quotation, (ofQuotation quotation).toOption.any
      (fun found => decide (found.asset = key)) = true ↔
        keyOf quotation = key ∧ ∃ found, ofQuotation quotation = .ok found := by
    intro quotation
    cases hquotation : ofQuotation quotation with
    | error fault => simp [Except.toOption]
    | ok found => simp [Except.toOption, asset_ofQuotation hquotation]
  rw [Board.get?_publish, recordsOf, ← List.filterMap_reverse, List.find?_filterMap,
    Option.bind_eq_some_iff]
  constructor
  · rintro ⟨quotation, hfound, hrecord⟩
    obtain ⟨hconverted, later, earlier, hsplit, hlater⟩ := List.find?_eq_some_iff_append.mp hfound
    refine ⟨earlier.reverse, quotation, later.reverse, ?_, ((hconverts _).mp hconverted).1,
      toOption_eq_some_iff.mp hrecord, ?_⟩
    · rw [← List.reverse_reverse quotations, hsplit]
      simp
    · intro other hother hkey found hconversion
      have hnot := hlater other (List.mem_reverse.mp hother)
      rw [Bool.not_eq_true', ← Bool.not_eq_true] at hnot
      exact hnot ((hconverts other).mpr ⟨hkey, found, hconversion⟩)
  · rintro ⟨before, quotation, after, rfl, hkey, hrecord, hafter⟩
    refine ⟨quotation, List.find?_eq_some_iff_append.mpr ⟨?_, after.reverse, before.reverse, ?_, ?_⟩,
      by simp [hrecord, Except.toOption]⟩
    · exact (hconverts quotation).mpr ⟨hkey, record, hrecord⟩
    · simp
    · intro other hother
      rw [Bool.not_eq_true', ← Bool.not_eq_true]
      intro hconverted
      obtain ⟨hsame, found, hconversion⟩ := (hconverts other).mp hconverted
      exact hafter other (List.mem_reverse.mp hother) hsame found hconversion

/-- A key is shown just if one of its quotations can be converted. -/
theorem isSome_get?_publish_recordsOf (quotations : List Quotation) (now : Int) (key : Asset) :
    ((Board.publish (recordsOf quotations) now).get? key).isSome = true ↔
      ∃ quotation ∈ quotations, keyOf quotation = key ∧
        ∃ record, ofQuotation quotation = .ok record := by
  rw [Board.get?_publish, List.find?_isSome]
  simp only [List.mem_reverse, mem_recordsOf, decide_eq_true_eq]
  constructor
  · rintro ⟨record, ⟨quotation, hquotation, hrecord⟩, rfl⟩
    exact ⟨quotation, hquotation, (asset_ofQuotation hrecord).symm, record, hrecord⟩
  · rintro ⟨quotation, hquotation, rfl, record, hrecord⟩
    exact ⟨record, ⟨quotation, hquotation, hrecord⟩, asset_ofQuotation hrecord⟩

/-! ## All histories -/

theorem wellKeyed_runTurns (turns : List Turn) (hboard : updater.board.WellKeyed) :
    (updater.runTurns turns).board.WellKeyed := by
  rw [board_runTurns]
  cases lastPublished? turns with
  | none => exact hboard
  | some input => exact Board.wellKeyed_publish _ _

/-- Whatever cycles there were, the board shows nothing before the first of them that was not
refused, and from then on the last one of these: just the keys of the quotations that could be
converted, each with the last of them.  Its records have their own keys and are within their bounds,
and all that can be asked of the board is answered from the same records. -/
theorem board_of_history (assets : List Asset) (interval : Seconds) (turns : List Turn) :
    let board := ((initial assets interval).runTurns turns).board
    (lastPublished? turns = none → board.toList = []) ∧
      (∀ input, lastPublished? turns = some input →
        (∀ key, (board.get? key).isSome = true ↔ ∃ quotation ∈ input.quotations,
          keyOf quotation = key ∧ ∃ record, ofQuotation quotation = .ok record) ∧
        ∀ key record, board.get? key = some record ↔
          LastConverted input.quotations key record) ∧
      (∀ key record, board.get? key = some record →
        record.blockchain = key.blockchain ∧ record.symbol = key.symbol ∧ record.Bounded) ∧
      (∀ specs, (board.lookup specs).map CoinInfo.asset =
          specs.filter (fun spec => (board.get? spec).isSome) ∧
        ∀ record ∈ board.lookup specs, board.get? record.asset = some record) ∧
      board.size = board.toList.length ∧ (board.toList.map CoinInfo.asset).Nodup ∧
      ∀ record, record ∈ board.toList ↔ board.get? record.asset = some record := by
  intro board
  have hboard : board = (lastPublished? turns).elim .empty fun input =>
      .publish (recordsOf input.quotations) input.now := board_runTurns turns
  have hkeyed : board.WellKeyed := wellKeyed_runTurns turns Board.wellKeyed_empty
  refine ⟨fun hnone => ?_, fun input hlast => ?_, fun key record hrecord => ?_, fun specs => ?_,
    ?_, hkeyed.nodup_toList, fun record => hkeyed.mem_toList_iff⟩
  · rw [hboard, hnone]
    rfl
  · rw [hboard, hlast]
    exact ⟨isSome_get?_publish_recordsOf input.quotations input.now,
      fun key record => get?_publish_recordsOf input.quotations input.now⟩
  · have hasset : record.asset = key := hkeyed.asset_of_get? hrecord
    refine ⟨congrArg Asset.blockchain hasset, congrArg Asset.symbol hasset, ?_⟩
    cases hlast : lastPublished? turns with
    | none =>
        rw [hboard, hlast] at hrecord
        cases hrecord
    | some input =>
        rw [hboard, hlast] at hrecord
        obtain ⟨_, quotation, _, -, -, hconverted, -⟩ :=
          (get?_publish_recordsOf input.quotations input.now).mp hrecord
        exact bounded_of_ofQuotation hconverted
  · exact ⟨hkeyed.map_asset_lookup specs, fun record => hkeyed.get?_of_mem_lookup⟩
  · rw [Board.size, Board.toList, List.length_map]

/-! ## One coin, quoted twice -/

/-- A quotation of the coin `Polkadot:DOT`. -/
def dotAt (price : Numeral) : Quotation :=
  ⟨"DOT", "DOT", some "Polkadot", price, .zero, 1700000000⟩

/-- The record of the coin at five. -/
def dotAtFive : CoinInfo :=
  ⟨"DOT", "DOT", "Polkadot", 0, 1700000000, 5000000000000⟩

/-- A cycle that quotes as given, and one that is refused. -/
def quotedTurns (quotations : List Quotation) : List Turn :=
  [.byHand ⟨1700000000, 0.0, 0.0, .ok quotations, none⟩,
    .onWorker ⟨1700000010, 10.0, 10.0, .ok [], some (.general .runtime "storage unavailable")⟩]

theorem ofQuotation_dotAt_five : ofQuotation (dotAt ⟨false, 5, 0⟩) = .ok dotAtFive := by
  rw [ofQuotation_eq_ok_iff]
  refine ⟨5000000000000, ?_, rfl⟩
  rw [dotAt, FixedPoint.ofNumeral_of_pos (by norm_num [Numeral.value, Numeral.signedCoefficient])]
  norm_num [Numeral.value, Numeral.signedCoefficient]

theorem not_converted_dotAt_large (record : CoinInfo) :
    ofQuotation (dotAt ⟨false, 1, 40⟩) ≠ .ok record := by
  intro hrecord
  obtain ⟨price, hprice, -⟩ := ofQuotation_eq_ok_iff.mp hrecord
  rw [dotAt, FixedPoint.ofNumeral_of_pos (by norm_num [Numeral.value, Numeral.signedCoefficient])]
    at hprice
  norm_num [Numeral.value, Numeral.signedCoefficient] at hprice
  cases hprice

/-- A price that is out of range hides no earlier price of the same coin. -/
theorem lastConverted_dotAtFive :
    LastConverted [dotAt ⟨false, 5, 0⟩, dotAt ⟨false, 1, 40⟩] ⟨"Polkadot", "DOT"⟩ dotAtFive := by
  refine ⟨[], _, _, rfl, rfl, ofQuotation_dotAt_five, fun later hlater _ => ?_⟩
  rw [List.mem_singleton.mp hlater]
  exact not_converted_dotAt_large

theorem board_of_history_dotAtFive :
    let batch := [dotAt ⟨false, 5, 0⟩, dotAt ⟨false, 1, 40⟩]
    let board := ((initial [] (.whole 10)).runTurns (quotedTurns batch)).board
    (lastPublished? (quotedTurns batch)).map CycleInput.quotations = some batch ∧
      board.get? ⟨"Polkadot", "DOT"⟩ = some dotAtFive ∧
      dotAtFive ∈ board.toList ∧ dotAtFive.Bounded := by
  intro batch board
  obtain ⟨-, hshown, hkeys, -, -, -, hall⟩ :=
    board_of_history [] (.whole 10) (quotedTurns batch)
  have hrecord : board.get? ⟨"Polkadot", "DOT"⟩ = some dotAtFive :=
    ((hshown _ rfl).2 _ _).mpr lastConverted_dotAtFive
  exact ⟨rfl, hrecord, (hall dotAtFive).mpr hrecord, (hkeys _ _ hrecord).2.2⟩

/-- What the board shows for a key need not be the last quotation of the cycle with this key. -/
theorem not_always_last_quotation :
    ¬ ∀ (turns : List Turn) (input : CycleInput) (key : Asset) (record : CoinInfo)
      (quotation : Quotation), lastPublished? turns = some input →
      ((initial [] (.whole 10)).runTurns turns).board.get? key = some record →
      (input.quotations.filter fun other => keyOf other = key).getLast? = some quotation →
      ofQuotation quotation = .ok record := by
  intro hlast
  let batch := [dotAt ⟨false, 5, 0⟩, dotAt ⟨false, 1, 40⟩]
  have hrecord : ((initial [] (.whole 10)).runTurns (quotedTurns batch)).board.get?
      ⟨"Polkadot", "DOT"⟩ = some dotAtFive := by
    rw [board_runTurns]
    exact (get?_publish_recordsOf batch 1700000000).mpr lastConverted_dotAtFive
  have hquotation : (batch.filter fun other => keyOf other = ⟨"Polkadot", "DOT"⟩).getLast? =
      some (dotAt ⟨false, 1, 40⟩) := by
    decide
  exact not_converted_dotAt_large dotAtFive
    (hlast (quotedTurns batch) _ _ _ _ rfl hrecord hquotation)

end Updater

end PriceBoard
