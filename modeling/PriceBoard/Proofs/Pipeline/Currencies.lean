import PriceBoard.Proofs.Pipeline.Fidelity
import PriceBoard.Proofs.Source.Pair

/-!
# A batch of currencies, asset by asset

The fiat source asks about all tickers of a batch at once and goes through the answer ticker by
ticker.  Seen from the assets this cannot be told: each of them has one ticker, that of its own
currency, and is quoted by the row with this ticker or not at all.  `quotationOf?` reads the answer
that way, and `perm_quotations_of_snapshot` says that a batch is quoted in no other way.

## Strategy

What a batch quotes has been reduced to single assets, and to rows of any kind, in
`Fiat.perm_quotations`.  Two things are left.  The rows of an answer are plain, so that their fields
are numbers, which are above zero or not (`price?_ofFigures`).  And the currency of an asset is in
upper case, so that the ticker, for which it is put into upper case again, has its letters
(`ticker_eq`).
-/

namespace PriceBoard

open Provider (ForexFigures Web)

namespace Fiat

variable {now : Int} {table : List (Spelling × ForexFigures)} {figures : ForexFigures}
  {asset first second : Asset}

/-! ## What an asset is quoted at -/

/-- The decimal as a number above zero. -/
def aboveZero? : Decimal → Option Numeral
  | .finite number => if 0 < number.value then some number else none
  | _ => none

/-- The price in a row: the bid, or else the close of the day before, if it is above zero. -/
def priceIn? (figures : ForexFigures) : Option Numeral :=
  (aboveZero? figures.bid).or (aboveZero? figures.previousClose)

/-- The time in a row, unless it is missing or zero. -/
def timeIn (now : Int) (figures : ForexFigures) : Int :=
  (figures.updated.filter fun seconds => seconds ≠ 0).getD now

/-- The quotation of an asset: the dollar is worth one, and any other currency what the row with its
own ticker says. -/
def quotationOf? (now : Int) (table : List (Spelling × ForexFigures)) (asset : Asset) :
    Option Quotation :=
  (sourceCurrency? asset).bind fun currency =>
    if currency = "USD" then
      some ⟨asset.symbol, asset.symbol, some "FIAT", .one, .zero, now⟩
    else
      (valueAt? (Spelling.ofText ("C:" ++ currency ++ "USD")) table).bind fun figures =>
        (priceIn? figures).map fun price =>
          ⟨asset.symbol, asset.symbol, some "FIAT", price, .zero, timeIn now figures⟩

/-- All spellings of a currency are quoted by one row, each under its own symbol. -/
theorem quotationOf?_congr (hcurrency : sourceCurrency? first = sourceCurrency? second) :
    quotationOf? now table second = (quotationOf? now table first).map fun quotation =>
      { quotation with symbol := second.symbol, name := second.symbol } := by
  unfold quotationOf?
  rw [hcurrency]
  cases sourceCurrency? second with
  | none => rfl
  | some currency =>
      by_cases hdollar : currency = "USD"
      · simp [hdollar]
      · simp [hdollar, Option.map_bind, Function.comp_def]

/-! ## Rows of an answer -/

theorem aboveZero?_finite (number : Numeral) :
    aboveZero? (.finite number) = if number.isPositive = true then some number else none := by
  simp only [aboveZero?, Numeral.isPositive_iff]

theorem price?_ofFigures (hplain : (Row.ofFigures figures).Plain) :
    price? (.ofFigures figures) =
      .ok ((priceIn? figures).map fun number => .decimal (.finite number)) := by
  obtain ⟨bid, hbid⟩ := hplain.bid
  obtain ⟨close, hclose⟩ := hplain.previousClose
  have hfigures : figures.bid = .finite bid ∧ figures.previousClose = .finite close :=
    ⟨Json.decimal.inj hbid, Json.decimal.inj hclose⟩
  simp only [price?, hbid, hclose, isUsable_of_finite, priceIn?, hfigures, aboveZero?_finite]
  cases bid.isPositive with
  | true => rfl
  | false =>
      cases close.isPositive with
      | true => rfl
      | false => rfl

theorem timestampOf_ofFigures (now : Int) (figures : ForexFigures) :
    timestampOf now (.ofFigures figures) = .integer (timeIn now figures) := by
  unfold timestampOf timeIn Row.ofFigures
  cases figures.updated with
  | none => rfl
  | some seconds =>
      by_cases hzero : seconds = 0
      · simp [hzero, Json.isVoid, Option.filter]
      · simp [hzero, Json.isVoid, Option.filter]

theorem rowQuote?_ofFigures (now : Int) (hplain : (Row.ofFigures figures).Plain) (asset : Asset) :
    rowQuote? now (.ofFigures figures) asset = (priceIn? figures).map fun price =>
      ⟨asset.symbol, asset.symbol, some "FIAT", price, .zero, timeIn now figures⟩ := by
  unfold rowQuote?
  rw [price?_ofFigures hplain, timestampOf_ofFigures]
  cases priceIn? figures with
  | none => rfl
  | some price => simp only [Option.map_some, quote_eq_ok]; rfl

theorem quoteIn?_eq_quotationOf? (hplain : ∀ entry ∈ table, (Row.ofFigures entry.2).Plain)
    (asset : Asset) :
    quoteIn? now (table.map fun entry => (entry.1, Row.ofFigures entry.2)) asset =
      quotationOf? now table asset := by
  unfold quoteIn? quotationOf?
  cases hcurrency : sourceCurrency? asset with
  | none => rfl
  | some currency =>
      by_cases hdollar : currency = target
      · subst hdollar
        simp only [quote_eq_ok]
        rfl
      · have hother : ¬ currency = "USD" := hdollar
        simp only [Option.bind_some, if_neg hdollar, if_neg hother, ticker_eq hcurrency,
          valueAt?_map]
        cases hrow : valueAt? (Spelling.ofText ("C:" ++ currency ++ "USD")) table with
        | none => rfl
        | some figures => exact rowQuote?_ofFigures now (hplain _ (mem_of_valueAt? hrow)) asset

end Fiat

/-! ## Batches -/

namespace Pipeline

open Provider

/-- **A batch of currencies is quoted asset by asset.**  Whatever the forex provider answered, the
quotations of the fiat source are those of the assets by the answer, one for each asset that has
one.  Spellings of one currency differ in nothing but the symbol, and two currencies never share a
ticker. -/
theorem perm_quotations_of_snapshot (settings : Settings) (key : String) (web : Web) (now : Int)
    (assets : List Asset) (table : List (Spelling × ForexFigures))
    (htable : (Polygon.snapshot (Polygon.endpoint key settings.forexUrl (timeout settings)) web
      (Fiat.tickersOf assets)).result = .ok table) :
    (∃ found, (Fiat.quotations (fiatRows settings key web) now assets).result = .ok found ∧
      found.Perm (assets.filterMap (Fiat.quotationOf? now table))) ∧
      (∀ first second, Fiat.sourceCurrency? first = Fiat.sourceCurrency? second →
        Fiat.quotationOf? now table second = (Fiat.quotationOf? now table first).map fun quotation =>
          { quotation with symbol := second.symbol, name := second.symbol }) ∧
      ∀ first second currency other, Fiat.sourceCurrency? first = some currency →
        Fiat.sourceCurrency? second = some other →
        Polygon.ticker currency "USD" = Polygon.ticker other "USD" → currency = other := by
  refine ⟨?_, fun _ _ => Fiat.quotationOf?_congr, ?_⟩
  · have hplain := Polygon.plain_snapshot htable
    have hrows : (fiatRows settings key web (Fiat.tickersOf assets)).result =
        .ok (table.map fun entry => (entry.1, Fiat.Row.ofFigures entry.2)) := by
      rw [result_fiatRows, htable]
      rfl
    have hmapped : ∀ entry ∈ table.map fun entry => (entry.1, Fiat.Row.ofFigures entry.2),
        entry.2.Plain := List.forall_mem_map.mpr hplain
    obtain ⟨found, hfound, hperm⟩ :
        ∃ found, (Fiat.quotations (fiatRows settings key web) now assets).result = .ok found ∧
          found.Perm (assets.filterMap (Fiat.quoteIn? now _)) :=
      Fiat.perm_quotations hmapped fun _ => hrows
    refine ⟨found, hfound, ?_⟩
    rwa [List.filterMap_congr fun asset _ => Fiat.quoteIn?_eq_quotationOf? hplain asset] at hperm
  · intro first second currency other hfirst hsecond hsame
    apply Fiat.currency_eq_of_ticker_eq
    rwa [← Fiat.ticker_eq hfirst, ← Fiat.ticker_eq hsecond]

/-! ## One row for two spellings -/

theorem exists_row_euro :
    ∃ figures price,
      Polygon.rows (euroDocument longText).content = .ok [(.ofText "C:EURUSD", figures)] ∧
      Fiat.priceIn? figures = some price := by
  obtain ⟨table, figures, bid, hrows, hrow, hbid, hvalue⟩ :=
    Polygon.exists_rows (euroAnswer writes_longText) (by decide)
  obtain ⟨row, hone⟩ : ∃ row, Polygon.rows (euroDocument longText).content =
      .ok [(.ofText "C:EURUSD", row)] := ⟨_, rfl⟩
  obtain rfl : table = [(.ofText "C:EURUSD", row)] := Except.ok.inj (hrows.symm.trans hone)
  obtain rfl : row = figures := Option.some.inj hrow
  have hpos : 0 < bid.value := by
    rw [hvalue, value_longNumber]
    norm_num
  exact ⟨row, bid, hone, by simp [Fiat.priceIn?, hbid, Fiat.aboveZero?, hpos]⟩

/-- Two spellings of the euro, a currency that is not in the answer, and the dollar. -/
def eurosAndOthers : List Asset :=
  [⟨"FIAT", "EUR-USD"⟩, ⟨"fiat", "eur - usd"⟩, ⟨"FIAT", "GBP-USD"⟩, ⟨"FIAT", "USD-USD"⟩]

theorem perm_quotations_of_snapshot_euros :
    let web := webOf fun _ => .ok ((euroAnswer writes_longText).reply 200)
    ∃ table found,
      (Polygon.snapshot (Polygon.endpoint "key" forexSettings.forexUrl (timeout forexSettings)) web
        (Fiat.tickersOf eurosAndOthers)).result = .ok table ∧
      (Fiat.quotations (fiatRows forexSettings "key" web) 0 eurosAndOthers).result = .ok found ∧
      (found.map Quotation.symbol).Perm ["EUR-USD", "eur - usd", "USD-USD"] := by
  intro web
  obtain ⟨figures, price, hrows, hprice⟩ := exists_row_euro
  have htable : (Polygon.snapshot (Polygon.endpoint "key" forexSettings.forexUrl
      (timeout forexSettings)) web (Fiat.tickersOf eurosAndOthers)).result =
        .ok [(.ofText "C:EURUSD", figures)] := by
    rw [result_snapshot (by decide), forexAnswer, Polygon.PricedAnswer.reply,
      answer_document _ (by decide) (euroAnswer writes_longText).depth_le]
    exact hrows
  obtain ⟨found, hfound, hperm⟩ :=
    (perm_quotations_of_snapshot forexSettings "key" web 0 eurosAndOthers _ htable).1
  refine ⟨_, found, htable, hfound, ?_⟩
  have heuro : ∀ asset, Fiat.sourceCurrency? asset = some "EUR" →
      Fiat.quotationOf? 0 [(.ofText "C:EURUSD", figures)] asset =
        some ⟨asset.symbol, asset.symbol, some "FIAT", price, .zero, Fiat.timeIn 0 figures⟩ := by
    intro asset hcurrency
    have hrow : valueAt? (Spelling.ofText ("C:" ++ "EUR" ++ "USD"))
        [(.ofText "C:EURUSD", figures)] = some figures := rfl
    rw [Fiat.quotationOf?, hcurrency, Option.bind_some, if_neg (by decide), hrow,
      Option.bind_some, hprice]
    rfl
  have hpound : Fiat.quotationOf? 0 [(.ofText "C:EURUSD", figures)] ⟨"FIAT", "GBP-USD"⟩ = none :=
    rfl
  have hdollar : Fiat.quotationOf? 0 [(.ofText "C:EURUSD", figures)] ⟨"FIAT", "USD-USD"⟩ =
      some ⟨"USD-USD", "USD-USD", some "FIAT", .one, .zero, 0⟩ := rfl
  have hquotations : (eurosAndOthers.filterMap
      (Fiat.quotationOf? 0 [(.ofText "C:EURUSD", figures)])).map Quotation.symbol =
        ["EUR-USD", "eur - usd", "USD-USD"] := by
    rw [eurosAndOthers, List.filterMap_cons_some (heuro _ (by decide)),
      List.filterMap_cons_some (heuro _ (by decide)), List.filterMap_cons_none hpound,
      List.filterMap_cons_some hdollar]
    rfl
  rw [← hquotations]
  exact hperm.map Quotation.symbol

end Pipeline

end PriceBoard
