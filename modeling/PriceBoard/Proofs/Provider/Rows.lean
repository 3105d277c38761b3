import PriceBoard.Proofs.Provider.Boundary
import PriceBoard.Proofs.Provider.Table
import PriceBoard.Proofs.Provider.Written

/-!
# The rows of a forex answer, one by one

A forex answer is read row by row into one table.  Each row stands for itself: what the table says
about a ticker is what the last row with this ticker says alone (`valueAt?_eq_some_iff`), and no
other row can change it or spoil it, whatever stands in its fields.

There is one exception: a row with a ticker and an endless time of update, wherever it stands, loses
the whole table.  `snapshot_of_document` says both.

## Strategy

The reading of the rows in front of a row and behind it are taken apart (`addRows_append`).  What
stands in front is overwritten, and what stands behind has other tickers, so that it does not
matter (`valueAt?_addRows`).
-/

namespace PriceBoard.Provider.Polygon

variable {content : Json} {items : List Json} {table found : List (Spelling × ForexFigures)}
  {name : Spelling} {figures : ForexFigures}

/-! ## Single rows -/

/-- The ticker of a row, as it is spelled; nothing if the row is no object or has no ticker. -/
def tickerOf? : Json → Option Spelling
  | .object fields =>
    if (Json.memberOrNull "ticker" fields).isVoid then none
    else some (Json.memberOrNull "ticker" fields).spelled
  | _ => none

/-- What the figures of every row are: finite numbers, and a time that is not before the beginning
of time, if there is one. -/
structure Sane (figures : ForexFigures) : Prop where
  bid : figures.bid.isFinite = true
  previousClose : figures.previousClose.isFinite = true
  updated : ∀ seconds, figures.updated = some seconds → 0 ≤ seconds

theorem map_fst_row {entry : Option (Spelling × ForexFigures)} (hrow : row content = .ok entry) :
    entry.map Prod.fst = tickerOf? content := by
  cases content with
  | object fields =>
      simp only [row] at hrow
      cases hticker : (Json.memberOrNull "ticker" fields).isVoid with
      | true =>
          simp only [hticker, if_true] at hrow
          cases hrow
          simp [tickerOf?, hticker]
      | false =>
          simp only [hticker, Bool.false_eq_true, if_false] at hrow
          obtain ⟨time, -, hrow⟩ := bind_eq_ok hrow
          cases hrow
          simp [tickerOf?, hticker]
  | _ =>
      cases hrow
      rfl

theorem updated_nonneg {time : Option Int} (htime : updated content = .ok time) (seconds : Int)
    (hseconds : time = some seconds) : 0 ≤ seconds := by
  subst hseconds
  cases content with
  | integer count =>
      simp only [updated, Except.ok.injEq, Option.ite_none_right_eq_some, Option.some.injEq] at htime
      obtain ⟨hpositive, rfl⟩ := htime
      exact Int.ediv_nonneg hpositive.le (Int.natCast_nonneg _)
  | bool value =>
      simp only [updated, Except.ok.injEq, Option.ite_none_right_eq_some, Option.some.injEq] at htime
      exact htime.2.le
  | double count =>
      simp only [updated] at htime
      split at htime
      · simp only [Except.ok.injEq, Option.ite_none_left_eq_some, Option.some.injEq] at htime
        obtain ⟨-, rfl⟩ := htime
        exact Int.natCast_nonneg _
      · split at htime <;> cases htime
      · cases htime
  | _ => cases htime

theorem sane_of_row (hrow : row content = .ok (some (name, figures))) : Sane figures := by
  cases content with
  | object fields =>
      simp only [row] at hrow
      split at hrow
      · cases hrow
      · obtain ⟨time, htime, hrow⟩ := bind_eq_ok hrow
        cases hrow
        exact ⟨isFinite_partFigure _ _ _, isFinite_partFigure _ _ _, updated_nonneg htime⟩
  | _ => cases hrow

/-- A row with a ticker that is not endless is read. -/
theorem exists_row_of_ticker (hticker : tickerOf? content = some name)
    (hcontent : ¬ Endless content) : ∃ figures, row content = .ok (some (name, figures)) := by
  obtain ⟨entry, hrow⟩ := row_of_not_endless hcontent
  have hname := map_fst_row hrow
  rw [hticker, Option.map_eq_some_iff] at hname
  obtain ⟨⟨_, figures⟩, rfl, rfl⟩ := hname
  exact ⟨figures, hrow⟩

/-! ## Tables -/

theorem nodup_keys_addRows (htable : (table.map Prod.fst).Nodup)
    (hfound : addRows table items = .ok found) : (found.map Prod.fst).Nodup := by
  induction items generalizing table with
  | nil =>
      cases hfound
      exact htable
  | cons item others ih =>
      obtain ⟨entry, -, hfound⟩ := bind_eq_ok hfound
      cases entry with
      | none => exact ih htable hfound
      | some entry => exact ih (nodup_keys_setEntry htable) hfound

/-- What stands in the table was said by the last row with the ticker. -/
theorem valueAt?_of_last {before after : List Json} {item : Json}
    (hfound : addRows [] (before ++ item :: after) = .ok found)
    (hrow : row item = .ok (some (name, figures)))
    (hafter : ∀ later ∈ after, tickerOf? later ≠ some name) :
    valueAt? name found = some figures := by
  rw [addRows_append] at hfound
  obtain ⟨early, -, hfound⟩ := bind_eq_ok hfound
  rw [addRows, hrow] at hfound
  -- the rows behind it have other tickers, and leave its entry alone
  have hothers : ∀ later ∈ after, ∀ other, row later ≠ .ok (some (name, other)) := by
    intro later hlater other hother
    exact hafter later hlater (map_fst_row hother).symm
  have hlater : addRows (setEntry name figures early) after = .ok found := hfound
  rw [valueAt?_addRows hlater hothers, valueAt?_setEntry, if_pos rfl]

/-- If there is a row with the ticker, there is a last one. -/
theorem exists_last (hticker : ∃ item ∈ items, tickerOf? item = some name) :
    ∃ before item after, items = before ++ item :: after ∧ tickerOf? item = some name ∧
      ∀ later ∈ after, tickerOf? later ≠ some name := by
  -- the last one is the first one from behind
  have hsome : (items.reverse.find? fun item => tickerOf? item = some name).isSome = true := by
    simpa using hticker
  obtain ⟨item, hitem⟩ := Option.isSome_iff_exists.mp hsome
  obtain ⟨hname, after, before, hitems, hafter⟩ := List.find?_eq_some_iff_append.mp hitem
  refine ⟨before.reverse, item, after.reverse, ?_, of_decide_eq_true hname, ?_⟩
  · rw [← List.reverse_reverse items, hitems]
    simp
  · intro later hlater
    simpa using hafter later (List.mem_reverse.mp hlater)

variable (hitems : ∀ item ∈ items, ¬ Endless item) (hfound : addRows [] items = .ok found)

include hitems hfound

/-- **Only the last row with a ticker counts.** -/
theorem valueAt?_eq_some_iff :
    valueAt? name found = some figures ↔
      ∃ before item after, items = before ++ item :: after ∧
        row item = .ok (some (name, figures)) ∧ ∀ later ∈ after, tickerOf? later ≠ some name := by
  constructor
  · intro hvalue
    have hticker : ∃ item ∈ items, tickerOf? item = some name := by
      by_contra hnone
      have hothers : ∀ item ∈ items, ∀ other, row item ≠ .ok (some (name, other)) := by
        intro item hitem other hother
        exact hnone ⟨item, hitem, (map_fst_row hother).symm⟩
      have hvalueNone : valueAt? name found = none := valueAt?_addRows hfound hothers
      cases hvalueNone.symm.trans hvalue
    obtain ⟨before, item, after, rfl, hname, hafter⟩ := exists_last hticker
    obtain ⟨last, hrow⟩ := exists_row_of_ticker hname (hitems item (by simp))
    have hlast := valueAt?_of_last hfound hrow hafter
    cases hlast.symm.trans hvalue
    exact ⟨before, item, after, rfl, hrow, hafter⟩
  · rintro ⟨before, item, after, rfl, hrow, hafter⟩
    exact valueAt?_of_last hfound hrow hafter

theorem mem_keys_iff :
    name ∈ found.map Prod.fst ↔ ∃ item ∈ items, tickerOf? item = some name := by
  rw [← isSome_valueAt?_iff, Option.isSome_iff_exists]
  constructor
  · rintro ⟨figures, hvalue⟩
    obtain ⟨before, item, after, rfl, hrow, -⟩ := (valueAt?_eq_some_iff hitems hfound).mp hvalue
    exact ⟨item, by simp, (map_fst_row hrow).symm⟩
  · intro hticker
    obtain ⟨before, item, after, hsplit, hname, hafter⟩ := exists_last hticker
    obtain ⟨figures, hrow⟩ := exists_row_of_ticker hname (hitems item (by simp [hsplit]))
    exact ⟨figures, (valueAt?_eq_some_iff hitems hfound).mpr ⟨before, item, after, hsplit, hrow,
      hafter⟩⟩

omit hitems hfound

/-! ## Answers -/

/-- The rows of a good answer: those in its list, or none if the list is empty or missing. -/
def HasRows (fields : Json.Fields) (items : List Json) : Prop :=
  Json.memberOrNull "tickers" fields = .array items ∨
    (Json.memberOrNull "tickers" fields).isVoid = true ∧ items = []

theorem rows_eq_addRows {fields : Json.Fields}
    (hstatus : goodStatus.contains (statusWord fields) = true) (hrows : HasRows fields items) :
    rows (.object fields) = addRows [] items := by
  simp only [rows, hstatus, Bool.not_true, Bool.false_eq_true, if_false]
  rcases hrows with harray | ⟨hvoid, rfl⟩
  · rw [harray]
    cases items with
    | nil => rfl
    | cons first rest => rfl
  · rw [if_pos hvoid]
    rfl

/-- **The rows of a good answer are read independently.**  If none of them is endless, a table is
read; its tickers are those of the rows, each once, and what it says about a ticker is what the last
row with this ticker says alone.  All its figures are sane.  An endless row, wherever it stands,
loses the table. -/
theorem snapshot_of_document (endpoint : Endpoint) (web : Web) (tickers : List String)
    (fields : Json.Fields) (items : List Json) (htickers : tickers ≠ [])
    (hanswer : endpoint.answer (web (endpoint.request
      "/v2/snapshot/locale/global/markets/forex/tickers"
      (.query [("tickers", Text.commaJoin tickers)]))) = .ok (.object fields))
    (hstatus : goodStatus.contains (statusWord fields) = true) (hrows : HasRows fields items) :
    let result := (snapshot endpoint web tickers).result
    ((∀ item ∈ items, ¬ Endless item) →
      ∃ table, result = .ok table ∧ (table.map Prod.fst).Nodup ∧
        (∀ name, name ∈ table.map Prod.fst ↔ ∃ item ∈ items, tickerOf? item = some name) ∧
        (∀ name figures, (name, figures) ∈ table ↔
          ∃ before item after, items = before ++ item :: after ∧
            row item = .ok (some (name, figures)) ∧
              ∀ later ∈ after, tickerOf? later ≠ some name) ∧
        ∀ entry ∈ table, Sane entry.2) ∧
      ((∃ item ∈ items, Endless item) → result = .error endlessFault) := by
  intro result
  have hresult : result = addRows [] items := by
    simp only [result, result_snapshot endpoint web htickers, hanswer]
    exact rows_eq_addRows hstatus hrows
  rw [hresult]
  constructor
  · intro hitems
    obtain ⟨table, htable⟩ := addRows_of_not_endless hitems []
    have hempty : (([] : List (Spelling × ForexFigures)).map Prod.fst).Nodup := List.nodup_nil
    have hnodup := nodup_keys_addRows hempty htable
    have hmem : ∀ name figures, (name, figures) ∈ table ↔
        ∃ before item after, items = before ++ item :: after ∧
          row item = .ok (some (name, figures)) ∧
            ∀ later ∈ after, tickerOf? later ≠ some name := by
      intro name figures
      rw [mem_iff_valueAt? hnodup, valueAt?_eq_some_iff hitems htable]
    refine ⟨table, htable, hnodup, fun name => mem_keys_iff hitems htable, hmem, ?_⟩
    intro entry hentry
    obtain ⟨_, item, _, -, hrow, -⟩ := (hmem entry.1 entry.2).mp hentry
    exact sane_of_row hrow
  · rintro ⟨item, hitem, hendless⟩
    exact addRows_of_endless hitem hendless []

/-- Tickers are told apart letter by letter, halves of pairs included. -/
example :
    (addRows [] ([0xD800, 0xD801].map fun code =>
      .object (Json.named [("ticker", .string ⟨[.half code]⟩)]))).map (List.map Prod.fst) =
        .ok [⟨[.half 0xD800]⟩, ⟨[.half 0xD801]⟩] := rfl

/-! ## Two rows with one ticker -/

/-- A row of the euro with a time of update. -/
def euroUpdate (time : Json.Word) : Json.Script :=
  .object [] (.cons (.ofPlain "ticker" (Eq.refl true)) [] []
    (.text (.ofPlain "C:EURUSD" (Eq.refl true))) [] []
    (.last (.ofPlain "updated" (Eq.refl true)) [] [] (.word time) []))

/-- Two rows of the euro, with something between them that is no row. -/
def euroUpdates (time : Json.Word) : Json.Document :=
  ⟨[], .object [] (.last (.ofPlain "tickers" (Eq.refl true)) [] []
    (.array [] (.cons (euroUpdate time) [] [] (.cons (.word .true) [] []
      (.last (euroUpdate .null) [])))) []), []⟩

/-- The rows in the answer. -/
def euroRows (time : Json.Word) : List Json :=
  [(euroUpdate time).content, .bool true, (euroUpdate .null).content]

theorem hasRows_euroUpdates (time : Json.Word) :
    goodStatus.contains (statusWord (euroUpdates time).content.fields) = true ∧
      HasRows (euroUpdates time).content.fields (euroRows time) := by
  have hmissing : (euroUpdates time).content.field? "status" = none := by
    have hname : (Json.Quoted.ofPlain "tickers" (Eq.refl true)).content =
        Spelling.ofText "tickers" := Json.Quoted.content_ofPlain _ _
    rw [Json.Document.content, Json.field?_content]
    simp [euroUpdates, Json.Script.field?, hname, Spelling.ofText_inj]
  rw [Json.field?] at hmissing
  refine ⟨?_, .inl rfl⟩
  simp only [statusWord, hmissing]
  decide

theorem not_endless_euroRows : ∀ item ∈ euroRows .null, ¬ Endless item := by
  have hread : ∀ item ∈ euroRows .null, ∃ entry, row item = .ok entry := by
    simp only [euroRows, List.forall_mem_cons]
    exact ⟨⟨_, rfl⟩, ⟨_, rfl⟩, ⟨_, rfl⟩, by simp⟩
  intro item hitem hendless
  obtain ⟨entry, hrow⟩ := hread item hitem
  cases (row_of_endless hendless).symm.trans hrow

theorem endless_euroUpdate : Endless (euroUpdate .infinity).content :=
  ⟨_, _, rfl, rfl, rfl, rfl⟩

theorem snapshot_of_document_euros :
    let endpoint := endpoint "key" "https://api.polygon.io" defaultTimeout
    let web : Json.Word → Web := fun time _ => .ok ⟨200, (euroUpdates time).text, 3⟩
    (∃ table, (snapshot endpoint (web .null) ["C:EURUSD"]).result = .ok table ∧
        ∀ name, name ∈ table.map Prod.fst ↔ name = .ofText "C:EURUSD") ∧
      (snapshot endpoint (web .infinity) ["C:EURUSD"]).result = .error endlessFault := by
  intro endpoint web
  have hanswer : ∀ time, endpoint.answer (.ok ⟨200, (euroUpdates time).text, 3⟩) =
      .ok (.object (euroUpdates time).content.fields) := fun time =>
    answer_document (euroUpdates time) (by decide) (by cases time <;> decide)
  constructor
  · obtain ⟨hstatus, hrows⟩ := hasRows_euroUpdates .null
    obtain ⟨table, htable, -, hkeys, -⟩ := (snapshot_of_document endpoint (web .null) ["C:EURUSD"]
      _ _ (by simp) (hanswer .null) hstatus hrows).1 not_endless_euroRows
    refine ⟨table, htable, fun name => (hkeys name).trans ?_⟩
    have htickers : ∀ item ∈ euroRows .null, tickerOf? item = some (.ofText "C:EURUSD") ∨
        tickerOf? item = none := by
      simp only [euroRows, List.forall_mem_cons]
      exact ⟨.inl rfl, .inr rfl, .inl rfl, by simp⟩
    constructor
    · rintro ⟨item, hitem, hname⟩
      rcases htickers item hitem with heuro | hnone
      · exact Option.some.inj (hname.symm.trans heuro)
      · cases hname.symm.trans hnone
    · rintro rfl
      exact ⟨_, List.mem_cons_self, rfl⟩
  · obtain ⟨hstatus, hrows⟩ := hasRows_euroUpdates .infinity
    exact (snapshot_of_document endpoint (web .infinity) ["C:EURUSD"] _ _ (by simp)
      (hanswer .infinity) hstatus hrows).2 ⟨_, List.mem_cons_self, endless_euroUpdate⟩

end PriceBoard.Provider.Polygon
