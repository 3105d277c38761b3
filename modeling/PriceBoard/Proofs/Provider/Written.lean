import PriceBoard.Proofs.Json.Field
import PriceBoard.Proofs.Outcome
import PriceBoard.Proofs.Provider.Figure
import PriceBoard.Proofs.Quotation
import PriceBoard.Provider.Coingecko
import PriceBoard.Provider.Polygon

/-!
# Prices as they are written

A price stands in an answer as a number or as a text with the same letters (`Script.Writes`).  In
both forms the figure that is read has the value of the number, however many digits it has.

An answer with a price for a coin, or for a ticker, need not be good in every respect: its other
rows have to be readable.  `Coingecko.PricedAnswer` and `Polygon.PricedAnswer` say what is asked of
such answers, and `exists_rows` that the table that is read from one has the price.
-/

namespace PriceBoard

open Json

/-- The value is the number, as a number or as a text. -/
inductive Json.Script.Writes (literal : Literal) : Script → Prop where
  | number (hreadable : literal.Readable) : Writes literal (.number literal hreadable)
  | text (text : Json.Quoted) (hcontent : text.content = .ofText (String.ofList literal.letters))
      (hrange : Decimal.inRange literal.numeral = true) : Writes literal (.text text)

namespace Provider

variable {content : Json} {number : Numeral} {literal : Literal}

/-! ## Figures -/

theorem spelled_of_writes {script : Script} (hwrites : script.Writes literal) :
    ∃ number, spelled script.content = .ok (.finite number) ∧ number.value = literal.value := by
  cases hwrites with
  | number hreadable =>
      cases hfraction : literal.isFraction with
      | true =>
          refine ⟨literal.numeral, ?_, literal.value_numeral⟩
          simp [Script.content, Literal.content, hfraction, spelled]
      | false =>
          -- a whole number is written out again, and its digits are read once more
          have hsmall : literal.wholeNumber.natAbs < 10 ^ literal.whole.length := by
            have hlt := spelledBy_lt literal.whole
            unfold Literal.wholeNumber
            split <;> simpa using hlt
          have hrange := Literal.inRange_ofInt hsmall (hreadable.length_le_of_whole hfraction)
          refine ⟨.ofInt literal.wholeNumber, ?_, ?_⟩
          · rw [← Literal.ofText_toString hrange]
            simp [Script.content, Literal.content, hfraction, spelled, display, Json.spelled, quoted]
          · rw [Numeral.value_ofInt, literal.value_of_not_isFraction hfraction]
  | text text hcontent hrange =>
      refine ⟨literal.numeral, ?_, literal.value_numeral⟩
      have hdisplay : display (.string text.content) = String.ofList literal.letters := by
        rw [hcontent]
        exact Spelling.text_ofText _
      rw [← literal.ofText_literal hrange, ← hdisplay]
      rfl

/-! ## Answers -/

/-- A good answer is read as the document in it. -/
theorem answer_document {endpoint : Endpoint} {status : Int} (document : Document) {deepest : ℕ}
    (hstatus : Endpoint.isFailure status = false) (hdepth : document.script.depth ≤ deepest) :
    endpoint.answer (.ok ⟨status, document.text, deepest⟩) = .ok document.content := by
  simp only [Endpoint.answer, Endpoint.document, hstatus, decodeExact_document document hdepth]
  rfl

/-! ## CoinGecko -/

namespace Coingecko

variable {now : Int} {id : String}

/-- An answer in which the row of a coin has the number as its price, and everything else can be
read. -/
structure PricedAnswer (now : Int) (id : String) (literal : Literal) where
  document : Document
  deepest : ℕ
  row : Script
  price : Script
  depth_le : document.script.depth ≤ deepest
  row_eq : document.script.field? id = some row
  price_eq : row.field? "usd" = some price
  writes : price.Writes literal
  time_read : ∃ seconds, wholeSeconds (figureOr (.finite (.ofInt now))
    ((row.content.field? "last_updated_at").getD .null)) = .ok seconds
  others_read : ∀ entry ∈ document.content.fields, entry.1 ≠ .ofText id →
    ∃ figures, Coingecko.row now entry.1 entry.2 = .ok figures

/-- The answer as it is received. -/
def PricedAnswer.reply {now : Int} {id : String} {literal : Literal}
    (answer : PricedAnswer now id literal) (status : Int) : Reply :=
  ⟨status, answer.document.text, answer.deepest⟩

/-- Looking up an id in the table is looking up the field and reading it. -/
theorem valueAt?_of_mapM_row {fields : Json.Fields} {table : List (Spelling × MarketFigures)}
    (htable : (fields.mapM fun (name, content) => (row now name content).map (name, ·)) =
      .ok table) (name : Spelling) :
    valueAt? name table =
      (valueAt? name fields).bind fun content => (row now name content).toOption := by
  induction fields generalizing table with
  | nil =>
      cases htable
      rfl
  | cons field others ih =>
      obtain ⟨first, content⟩ := field
      obtain ⟨value, rest, hvalue, hrest, rfl⟩ := mapM_eq_ok_cons htable
      have hothers := ih hrest
      obtain ⟨figures, hrow, rfl⟩ := map_eq_ok hvalue
      by_cases hname : first = name
      · subst hname
        simp [valueAt?, hrow, Except.toOption]
      · rw [valueAt?, if_neg hname, hothers, valueAt?, if_neg hname]

theorem exists_row (answer : PricedAnswer now id literal) :
    ∃ figures, row now (.ofText id) answer.row.content = .ok figures ∧
      figures.price.value = literal.value := by
  obtain ⟨number, hspelled, hvalue⟩ := spelled_of_writes answer.writes
  obtain ⟨seconds, hseconds⟩ := answer.time_read
  have hprice : answer.row.content.field? "usd" = some answer.price.content := by
    rw [field?_content, answer.price_eq, Option.map_some]
  obtain ⟨fields, hcontent⟩ := exists_fields_of_field? hprice
  rw [hcontent] at hprice hseconds ⊢
  have hfigure : figure provider (.ofText id ++ .ofText ".usd") (memberOrNull "usd" fields) =
      .ok number := by
    refine figure_of_spelled _ _ ?_
    rw [memberOrNull_of_field? hprice, hspelled]
  have htime : wholeSeconds (figureOr (.finite (.ofInt now))
      (memberOrNull "last_updated_at" fields)) = .ok seconds := hseconds
  simp only [row, hfigure, htime]
  exact ⟨_, rfl, hvalue⟩

theorem exists_rows (answer : PricedAnswer now id literal) :
    ∃ table figures, rows now answer.document.content = .ok table ∧
      valueAt? (Spelling.ofText id) table = some figures ∧
      figures.price.value = literal.value := by
  obtain ⟨figures, hrow, hvalue⟩ := exists_row answer
  have hmember : answer.document.content.field? id = some answer.row.content := by
    have hfield := field?_content answer.document.script id
    rwa [answer.row_eq] at hfield
  have hnames := nodup_names_content answer.document.script
  have hread : ∀ entry ∈ answer.document.content.fields, ∃ found,
      (row now entry.1 entry.2).map (entry.1, ·) = .ok found := by
    intro entry hentry
    by_cases hname : entry.1 = .ofText id
    · have hlookup : valueAt? (Spelling.ofText id) answer.document.content.fields = some entry.2 :=
        (mem_iff_valueAt? hnames).mp (hname ▸ hentry)
      have hcontent : entry.2 = answer.row.content :=
        Option.some.inj (hlookup.symm.trans hmember)
      rw [hname, hcontent, hrow]
      exact ⟨_, rfl⟩
    · obtain ⟨found, hfound⟩ := answer.others_read entry hentry hname
      rw [hfound]
      exact ⟨_, rfl⟩
  obtain ⟨table, htable⟩ := exists_mapM_eq_ok hread
  have hlookup := valueAt?_of_mapM_row htable (.ofText id)
  rw [← member?, ← field?, hmember, Option.bind_some, hrow] at hlookup
  refine ⟨table, figures, ?_, hlookup, hvalue⟩
  obtain ⟨fields, hcontent⟩ := exists_fields_of_field? hmember
  rw [hcontent] at htable ⊢
  exact htable

end Coingecko

/-! ## Polygon -/

namespace Polygon

variable {ticker : String}

/-- An answer in which the last row of a ticker has the number as its current bid, and everything
else can be read. -/
structure PricedAnswer (ticker : String) (literal : Literal) where
  document : Document
  deepest : ℕ
  gap : Gap
  items : Items
  before : List Script
  row : Script
  after : List Script
  name : Json.Quoted
  quote : Script
  price : Script
  depth_le : document.script.depth ≤ deepest
  status_good : goodStatus.contains (statusWord document.content.fields) = true
  rows_eq : document.script.field? "tickers" = some (.array gap items)
  items_eq : items.toList = before ++ row :: after
  name_eq : row.field? "ticker" = some (.text name)
  ticker_eq : name.content = .ofText ticker
  quote_eq : row.field? "lastQuote" = some quote
  price_eq : quote.field? "b" = some price
  writes : price.Writes literal
  time_read : ∃ time, updated ((row.content.field? "updated").getD .null) = .ok time
  others_read : ∀ other ∈ before ++ after, ∃ found, Polygon.row other.content = .ok found
  last : ∀ other ∈ after, ∀ figures,
    Polygon.row other.content ≠ .ok (some (.ofText ticker, figures))

/-- The answer as it is received. -/
def PricedAnswer.reply {ticker : String} {literal : Literal} (answer : PricedAnswer ticker literal)
    (status : Int) : Reply :=
  ⟨status, answer.document.text, answer.deepest⟩

theorem addRows_append (table : List (Spelling × ForexFigures)) (before after : List Json) :
    addRows table (before ++ after) = addRows table before >>= fun table => addRows table after := by
  induction before generalizing table with
  | nil => rfl
  | cons content others ih =>
      simp only [List.cons_append, addRows]
      cases row content with
      | error fault => rfl
      | ok entry =>
          cases entry with
          | none => exact ih table
          | some entry => exact ih (setEntry entry.1 entry.2 table)

theorem exists_addRows {items : List Json} (table : List (Spelling × ForexFigures))
    (hitems : ∀ item ∈ items, ∃ found, row item = .ok found) :
    ∃ found, addRows table items = .ok found := by
  induction items generalizing table with
  | nil => exact ⟨table, rfl⟩
  | cons item others ih =>
      obtain ⟨entry, hentry⟩ := hitems item List.mem_cons_self
      have hothers := fun table => ih table fun other hother =>
        hitems other (List.mem_cons_of_mem _ hother)
      rw [addRows, hentry]
      cases entry with
      | none => exact hothers table
      | some entry => exact hothers (setEntry entry.1 entry.2 table)

/-- Rows with other tickers do not matter. -/
theorem valueAt?_addRows {name : Spelling} {items : List Json}
    {table found : List (Spelling × ForexFigures)}
    (hfound : addRows table items = .ok found)
    (hitems : ∀ item ∈ items, ∀ figures, row item ≠ .ok (some (name, figures))) :
    valueAt? name found = valueAt? name table := by
  induction items generalizing table with
  | nil =>
      cases hfound
      rfl
  | cons item others ih =>
      have hothers := fun other hother => hitems other (List.mem_cons_of_mem _ hother)
      obtain ⟨entry, hrow, hfound⟩ := bind_eq_ok hfound
      cases entry with
      | none => exact ih hfound hothers
      | some entry =>
          have hother : entry.1 ≠ name := by
            rintro rfl
            exact hitems item List.mem_cons_self entry.2 hrow
          rw [ih hfound hothers, valueAt?_setEntry, if_neg hother]

theorem exists_row (answer : PricedAnswer ticker literal) (hticker : ticker ≠ "") :
    ∃ figures bid, row answer.row.content = .ok (some (.ofText ticker, figures)) ∧
      figures.bid = .finite bid ∧ bid.value = literal.value := by
  obtain ⟨number, hspelled, hvalue⟩ := spelled_of_writes answer.writes
  obtain ⟨time, htime⟩ := answer.time_read
  have hname : answer.row.content.field? "ticker" = some (.string (.ofText ticker)) := by
    rw [field?_content, answer.name_eq, Option.map_some, ← answer.ticker_eq]
    rfl
  have hquote : answer.row.content.field? "lastQuote" = some answer.quote.content := by
    rw [field?_content, answer.quote_eq, Option.map_some]
  have hprice : answer.quote.content.field? "b" = some answer.price.content := by
    rw [field?_content, answer.price_eq, Option.map_some]
  obtain ⟨fields, hcontent⟩ := exists_fields_of_field? hname
  rw [hcontent] at hname hquote htime ⊢
  have hmember : memberOrNull "ticker" fields = .string (.ofText ticker) :=
    memberOrNull_of_field? hname
  have hsome : (Json.string (.ofText ticker)).isVoid = false := by
    simpa [isVoid, Spelling.isEmpty, Spelling.ofText] using hticker
  have hbid : partFigure fields "lastQuote" "b" = .finite number := by
    refine figureOr_of_spelled _ ?_
    rw [memberOrNull_of_field? hquote, hprice, Option.getD_some, hspelled]
  have hupdated : updated (memberOrNull "updated" fields) = .ok time := htime
  refine ⟨⟨partFigure fields "lastQuote" "b", partFigure fields "prevDay" "c", time⟩, number,
    ?_, hbid, hvalue⟩
  simp only [row, hmember, hsome, Json.spelled, hupdated, Bool.false_eq_true, if_false]
  rfl

theorem exists_rows (answer : PricedAnswer ticker literal) (hticker : ticker ≠ "") :
    ∃ table figures bid, rows answer.document.content = .ok table ∧
      valueAt? (Spelling.ofText ticker) table = some figures ∧ figures.bid = .finite bid ∧
        bid.value = literal.value := by
  obtain ⟨figures, bid, hrow, hbid, hvalue⟩ := exists_row answer hticker
  have hread : ∀ others : List Script, (∀ other ∈ others, other ∈ answer.before ++ answer.after) →
      ∀ item ∈ others.map Script.content, ∃ found, row item = .ok found := by
    intro others hothers item hitem
    obtain ⟨other, hother, rfl⟩ := List.mem_map.mp hitem
    exact answer.others_read other (hothers other hother)
  have hlast : ∀ item ∈ answer.after.map Script.content, ∀ figures,
      row item ≠ .ok (some (.ofText ticker, figures)) := by
    intro item hitem
    obtain ⟨other, hother, rfl⟩ := List.mem_map.mp hitem
    exact answer.last other hother
  -- the rows before, the row itself, and the rows behind it
  obtain ⟨early, hearly⟩ := exists_addRows [] (hread answer.before fun _ => List.mem_append_left _)
  obtain ⟨table, htable⟩ := exists_addRows (setEntry (.ofText ticker) figures early)
    (hread answer.after fun _ => List.mem_append_right _)
  have hall : addRows [] answer.items.contents = .ok table := by
    rw [Items.contents_eq, answer.items_eq, List.map_append, List.map_cons, addRows_append, hearly]
    simp only [bind, Except.bind, addRows, hrow, htable]
  have hlookup : valueAt? (Spelling.ofText ticker) table = some figures := by
    rw [valueAt?_addRows htable hlast, valueAt?_setEntry, if_pos rfl]
  have hrows : answer.document.content.field? "tickers" = some (.array answer.items.contents) := by
    have hfield := field?_content answer.document.script "tickers"
    rwa [answer.rows_eq] at hfield
  refine ⟨table, figures, bid, ?_, hlookup, hbid, hvalue⟩
  have hstatus := answer.status_good
  obtain ⟨fields, hcontent⟩ := exists_fields_of_field? hrows
  rw [hcontent] at hrows hstatus ⊢
  have hgood : goodStatus.contains (statusWord fields) = true := hstatus
  have hsome : (Json.array answer.items.contents).isVoid = false := by
    simp [isVoid, Items.contents_eq, answer.items_eq]
  simp only [rows, hgood, memberOrNull_of_field? hrows, hsome, Bool.not_true, Bool.false_eq_true,
    if_false, hall]

end Polygon

end Provider

end PriceBoard
