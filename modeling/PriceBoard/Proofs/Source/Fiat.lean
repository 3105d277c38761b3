import PriceBoard.Proofs.Distinct
import PriceBoard.Proofs.Entries
import PriceBoard.Proofs.Outcome
import PriceBoard.Proofs.Quotation
import PriceBoard.Source.Fiat

/-!
# Currencies, one by one

The fiat source quotes a batch by asking about all tickers at once.  What an asset gets in the batch
depends on the table of answers and on the asset, not on its company: it is `quoteIn?`.

`perm_quotations` says so for a table of plain rows, in which nothing can be confused with another
kind of value.  Without a table there is nothing for anyone (`result_quotations_of_error`), if there
is something to ask about at all.
-/

namespace PriceBoard.Fiat

variable {ε : Type} {now : Int} {table : List (Spelling × Row)}

/-! ## Plain rows -/

/-- A row of finite decimals, with a whole number of seconds or no time at all. -/
structure Row.Plain (row : Row) : Prop where
  bid : ∃ number, row.bid = .decimal (.finite number)
  previousClose : ∃ number, row.previousClose = .decimal (.finite number)
  updated : row.updated = .null ∨ ∃ seconds, row.updated = .integer seconds

/-- The time of a quotation: the time of the update, if there is one. -/
def timestampOf (now : Int) (row : Row) : Json :=
  if row.updated.isVoid then .integer now else row.updated

theorem timestampOf_plain {row : Row} (hplain : row.Plain) (now : Int) :
    ∃ seconds, timestampOf now row = .integer seconds := by
  unfold timestampOf
  rcases hplain.updated with hnull | ⟨seconds, hseconds⟩
  · exact ⟨now, by simp [hnull, Json.isVoid]⟩
  · rw [hseconds]
    split
    · exact ⟨now, rfl⟩
    · exact ⟨seconds, rfl⟩

theorem isUsable_of_finite (number : Numeral) :
    isUsable (.decimal (.finite number)) = .ok number.isPositive := by
  cases hzero : number.isZero with
  | true =>
      have hcoefficient : number.coefficient = 0 := by simpa [Numeral.isZero] using hzero
      simp [isUsable, Json.isVoid, hzero, Numeral.isPositive, hcoefficient]
  | false =>
      simp only [isUsable, Json.isVoid, hzero, Decimal.isPositive, Bool.false_eq_true, if_false]
      rfl

theorem price?_of_plain {row : Row} (hplain : row.Plain) :
    price? row = .ok none ∨ ∃ number, price? row = .ok (some (.decimal (.finite number))) := by
  obtain ⟨bid, hbid⟩ := hplain.bid
  obtain ⟨close, hclose⟩ := hplain.previousClose
  simp only [price?, hbid, hclose, isUsable_of_finite, bind, Except.bind, pure, Except.pure]
  cases bid.isPositive with
  | true => exact .inr ⟨bid, rfl⟩
  | false =>
      cases close.isPositive with
      | true => exact .inr ⟨close, rfl⟩
      | false => exact .inl rfl

/-! ## Single assets -/

theorem quote_eq_ok (asset : Asset) (number : Numeral) (seconds : Int) :
    quote asset (.decimal (.finite number)) (.integer seconds) =
      .ok ⟨asset.symbol, asset.symbol, some blockchain, number, .zero, seconds⟩ :=
  Quotation.report_of_finite blockchain asset.symbol rfl rfl seconds

/-- The quotation of an asset by a row. -/
def rowQuote? (now : Int) (row : Row) (asset : Asset) : Option Quotation :=
  match price? row with
  | .ok (some price) => (quote asset price (timestampOf now row)).toOption
  | _ => none

/-- The quotation of an asset by a table. -/
def quoteIn? (now : Int) (table : List (Spelling × Row)) (asset : Asset) : Option Quotation :=
  match sourceCurrency? asset with
  | none => none
  | some currency =>
    if currency = target then (quote asset (.decimal (.finite .one)) (.integer now)).toOption
    else
      (valueAt? (Spelling.ofText (Provider.Polygon.ticker currency target)) table).bind fun row =>
        rowQuote? now row asset

theorem asked?_eq_some_iff {asset : Asset} {ticker : String} :
    asked? asset = some (ticker, asset) ↔ ∃ currency, sourceCurrency? asset = some currency ∧
      currency ≠ target ∧ Provider.Polygon.ticker currency target = ticker := by
  unfold asked?
  cases sourceCurrency? asset with
  | none => simp
  | some currency => by_cases htarget : currency = target <;> simp [htarget]

/-- The price of a currency is the current bid, if this is above zero. -/
theorem exists_quoteIn? {asset : Asset} {ticker : String} {row : Row} {bid : Numeral} (now : Int)
    (hticker : asked? asset = some (ticker, asset))
    (hrow : valueAt? (Spelling.ofText ticker) table = some row)
    (hplain : row.Plain) (hbid : row.bid = .decimal (.finite bid)) (hpos : bid.isPositive = true) :
    ∃ quotation, quoteIn? now table asset = some quotation ∧ quotation.price = bid := by
  obtain ⟨currency, hcurrency, htarget, hname⟩ := asked?_eq_some_iff.mp hticker
  obtain ⟨seconds, hseconds⟩ := timestampOf_plain hplain now
  have hprice : price? row = .ok (some (.decimal (.finite bid))) := by
    simp only [price?, hbid, isUsable_of_finite, hpos]
    rfl
  refine ⟨⟨asset.symbol, asset.symbol, some blockchain, bid, .zero, seconds⟩, ?_, rfl⟩
  rw [quoteIn?, hcurrency]
  simp only [if_neg htarget, hname, hrow, Option.bind_some, rowQuote?, hprice, hseconds, quote_eq_ok]
  rfl

/-- Assets with one currency and one symbol are quoted alike. -/
theorem quoteIn?_congr {first second : Asset}
    (hcurrency : sourceCurrency? first = sourceCurrency? second)
    (hsymbol : first.symbol = second.symbol) :
    quoteIn? now table first = quoteIn? now table second := by
  simp only [quoteIn?, rowQuote?, quote, hcurrency, hsymbol]

theorem upper_blockchain {asset : Asset} (hasset : (sourceCurrency? asset).isSome = true) :
    Text.upper asset.blockchain = blockchain := by
  unfold sourceCurrency? at hasset
  split at hasset
  · assumption
  · cases hasset

/-- The currency of an asset on the blockchain of currencies is told by its symbol. -/
theorem sourceCurrency?_congr {first second : Asset} (hsymbol : first.symbol = second.symbol)
    (hfirst : (sourceCurrency? first).isSome = true)
    (hsecond : (sourceCurrency? second).isSome = true) :
    sourceCurrency? first = sourceCurrency? second := by
  simp only [sourceCurrency?, upper_blockchain hfirst, upper_blockchain hsecond, hsymbol]

theorem names_of_quoteIn? {asset : Asset} {quotation : Quotation}
    (hquotation : quoteIn? now table asset = some quotation) :
    quotation.blockchain = some blockchain ∧ quotation.symbol = asset.symbol := by
  have hquote : ∃ price timestamp, quote asset price timestamp = .ok quotation := by
    unfold quoteIn? at hquotation
    split at hquotation
    · cases hquotation
    · split at hquotation
      · exact ⟨_, _, toOption_eq_some_iff.mp hquotation⟩
      · obtain ⟨row, -, hrow⟩ := Option.bind_eq_some_iff.mp hquotation
        unfold rowQuote? at hrow
        split at hrow
        · exact ⟨_, _, toOption_eq_some_iff.mp hrow⟩
        · cases hrow
  obtain ⟨price, timestamp, hquote⟩ := hquote
  exact Quotation.names_of_report hquote

/-! ## Batches -/

/-- The tickers that are asked for. -/
def tickersOf (assets : List Asset) : List String :=
  (groupByLabel Prod.fst (assets.filterMap asked?)).map Prod.fst

theorem tickersOf_eq_nil_iff (assets : List Asset) :
    tickersOf assets = [] ↔ ∀ asset ∈ assets, asked? asset = none := by
  rw [tickersOf, List.map_eq_nil_iff, groupByLabel_eq_nil_iff, List.filterMap_eq_nil_iff]

/-- Nothing is asked for just if there are no groups. -/
theorem isEmpty_groups_iff (assets : List Asset) :
    (groupByLabel Prod.fst (assets.filterMap asked?)).isEmpty = true ↔ tickersOf assets = [] := by
  rw [List.isEmpty_iff, tickersOf, List.map_eq_nil_iff]

theorem result_quoteTicker {ticker : String}
    (hplain : ∀ row, valueAt? (Spelling.ofText ticker) table = some row → row.Plain)
    (assets : List Asset) :
    (quoteTicker now table ticker assets : Outcome ε (List Quotation)).result =
      .ok (assets.filterMap fun asset =>
        (valueAt? (Spelling.ofText ticker) table).bind fun row => rowQuote? now row asset) := by
  unfold quoteTicker
  cases hrow : valueAt? (Spelling.ofText ticker) table with
  | none => simp [Outcome.result_bind_ok (Outcome.result_note _)]
  | some row =>
      have hplain := hplain row hrow
      obtain ⟨seconds, hseconds⟩ := timestampOf_plain hplain now
      rcases price?_of_plain hplain with hprice | ⟨number, hprice⟩
      · simp only [hprice, Option.bind_some, rowQuote?]
        rw [Outcome.result_bind_ok (Outcome.result_ofExcept _)]
        simp [Outcome.result_bind_ok (Outcome.result_note _)]
      · simp only [hprice, Option.bind_some, rowQuote?]
        rw [Outcome.result_bind_ok (Outcome.result_ofExcept _)]
        -- the time is that of `timestampOf`, by its definition
        change (assets.mapM fun asset =>
          quote asset (.decimal (.finite number)) (timestampOf now row)) = _
        rw [hseconds, mapM_eq_ok_of_forall fun asset _ => quote_eq_ok asset number seconds]
        simp [quote_eq_ok, Except.toOption]

/-- The quotations of the dollars in a batch. -/
def dollarsOf (now : Int) (assets : List Asset) : List Quotation :=
  (assets.filter fun asset => sourceCurrency? asset = some target).map fun asset =>
    ⟨asset.symbol, asset.symbol, some blockchain, .one, .zero, now⟩

theorem quote_dollars (now : Int) (assets : List Asset) :
    ((assets.filter fun asset => sourceCurrency? asset = some target).mapM fun asset =>
      quote asset (.decimal (.finite .one)) (.integer now)) = .ok (dollarsOf now assets) :=
  mapM_eq_ok_of_forall fun asset _ => quote_eq_ok asset .one now

/-- The notes about assets that are no currencies leave nothing else behind. -/
theorem result_notes (assets : List Asset) :
    (Outcome.collect (fun asset => do
      Outcome.note ("[FIAT][unsupported_asset] asset=" ++ Asset.text asset)
      return ([] : List Quotation)) assets : Outcome ε _).result =
        .ok (assets.flatMap fun _ => []) :=
  Outcome.result_collect fun _ _ => rfl

/-- A batch is the dollars, and what comes of one call for all others. -/
theorem result_quotations (snapshot : List String → Outcome ε (List (Spelling × Row)))
    (now : Int) (assets : List Asset) :
    (quotations snapshot now assets).result =
      if tickersOf assets = [] then .ok (dollarsOf now assets)
      else do
        let table ← (snapshot (tickersOf assets)).result
        let others ← (Outcome.collect
          (fun group : String × List (String × Asset) =>
            (quoteTicker now table group.1 (group.2.map Prod.snd) : Outcome ε _))
          (groupByLabel Prod.fst (assets.filterMap asked?))).result
        return dollarsOf now assets ++ others := by
  unfold quotations
  rw [Outcome.result_bind_ok (result_notes _), quote_dollars,
    Outcome.result_bind_ok (Outcome.result_ofExcept _)]
  simp only [isEmpty_groups_iff]
  split
  · rfl
  · simp only [Outcome.result_bind]
    rfl

theorem requests_quoteTicker (ticker : String) (assets : List Asset) :
    (quoteTicker now table ticker assets : Outcome ε (List Quotation)).requests = [] := by
  unfold quoteTicker
  cases valueAt? (Spelling.ofText ticker) table with
  | none => exact Outcome.requests_bind_eq_first fun _ => rfl
  | some row =>
      refine Outcome.requests_bind_eq_first fun price => ?_
      cases price with
      | none => exact Outcome.requests_bind_eq_first fun _ => rfl
      | some price => rfl

/-- The only requests are those of the call. -/
theorem requests_quotations (snapshot : List String → Outcome ε (List (Spelling × Row)))
    (now : Int) (assets : List Asset) :
    (quotations snapshot now assets).requests =
      if tickersOf assets = [] then [] else (snapshot (tickersOf assets)).requests := by
  unfold quotations
  rw [Outcome.requests_bind_ok (result_notes _), quote_dollars,
    Outcome.requests_bind_ok (Outcome.result_ofExcept _),
    Outcome.requests_collect_eq_nil fun _ => Outcome.requests_bind_eq_first fun _ => rfl]
  simp only [isEmpty_groups_iff, List.nil_append, Outcome.requests_ofExcept]
  split
  · rfl
  · -- what follows the call only reads the table
    refine Outcome.requests_bind_eq_first fun table => ?_
    rw [Outcome.requests_bind_eq_first fun _ => rfl]
    exact Outcome.requests_collect_eq_nil fun group => requests_quoteTicker group.1 _

/-- Without a table there is nothing, if a table was asked for. -/
theorem result_quotations_of_error {snapshot : List String → Outcome ε (List (Spelling × Row))}
    {assets : List Asset} {fault : Fault} (htickers : tickersOf assets ≠ [])
    (hsnapshot : (snapshot (tickersOf assets)).result = .error fault) :
    (quotations snapshot now assets).result = .error fault := by
  rw [result_quotations, if_neg htickers, hsnapshot]
  rfl

/-- What the assets have by the table: the dollars, and what was asked for. -/
theorem perm_filterMap_quoteIn? (now : Int) (table : List (Spelling × Row)) (assets : List Asset) :
    (dollarsOf now assets ++ (assets.filterMap asked?).filterMap fun pair =>
      (valueAt? (Spelling.ofText pair.1) table).bind fun row => rowQuote? now row pair.2).Perm
        (assets.filterMap (quoteIn? now table)) := by
  have hsplit := (List.filter_append_perm
    (fun asset => decide (sourceCurrency? asset = some target)) assets).filterMap
      (quoteIn? now table)
  have hdollars : (assets.filter fun asset =>
      decide (sourceCurrency? asset = some target)).filterMap (quoteIn? now table) =
        dollarsOf now assets := by
    rw [dollarsOf, ← List.filterMap_eq_map]
    refine List.filterMap_congr fun asset hasset => ?_
    rw [quoteIn?, of_decide_eq_true (List.mem_filter.mp hasset).2]
    simp [quote_eq_ok, Except.toOption]
  have hothers : (assets.filter fun asset =>
      !decide (sourceCurrency? asset = some target)).filterMap (quoteIn? now table) =
        (assets.filterMap asked?).filterMap fun pair =>
          (valueAt? (Spelling.ofText pair.1) table).bind fun row => rowQuote? now row pair.2 := by
    rw [List.filterMap_filter, List.filterMap_filterMap]
    refine List.filterMap_congr fun asset _ => ?_
    -- nothing is asked for just if there is no currency, or it is the dollar
    cases hcurrency : sourceCurrency? asset with
    | none => simp [quoteIn?, asked?, hcurrency]
    | some currency =>
        by_cases htarget : currency = target <;> simp [quoteIn?, asked?, hcurrency, htarget]
  rwa [List.filterMap_append, hdollars, hothers] at hsplit

/-- The quotations of a batch are those that its assets have by the table. -/
theorem perm_quotations {snapshot : List String → Outcome ε (List (Spelling × Row))}
    {assets : List Asset} (hplain : ∀ entry ∈ table, entry.2.Plain)
    (hsnapshot : tickersOf assets ≠ [] → (snapshot (tickersOf assets)).result = .ok table) :
    ∃ found, (quotations snapshot now assets).result = .ok found ∧
      found.Perm (assets.filterMap (quoteIn? now table)) := by
  have hall := perm_filterMap_quoteIn? now table assets
  rw [result_quotations]
  by_cases htickers : tickersOf assets = []
  · -- all that is quoted is dollars
    have hasked : assets.filterMap asked? = [] :=
      List.filterMap_eq_nil_iff.mpr ((tickersOf_eq_nil_iff assets).mp htickers)
    rw [hasked, List.filterMap_nil, List.append_nil] at hall
    exact ⟨dollarsOf now assets, if_pos htickers, hall⟩
  · have hrows : ∀ group ∈ groupByLabel Prod.fst (assets.filterMap asked?),
        (quoteTicker now table group.1 (group.2.map Prod.snd) : Outcome ε _).result =
          .ok (group.2.filterMap fun pair =>
            (valueAt? (Spelling.ofText group.1) table).bind
              fun row => rowQuote? now row pair.2) := by
      intro group _
      rw [result_quoteTicker fun row hrow => hplain _ (mem_of_valueAt? hrow), List.filterMap_map]
      rfl
    rw [if_neg htickers, hsnapshot htickers]
    simp only [bind, Except.bind, Outcome.result_collect hrows, pure, Except.pure]
    have hgroups := perm_flatMap_groupByLabel Prod.fst (assets.filterMap asked?)
      fun ticker (pair : String × Asset) =>
        (valueAt? (Spelling.ofText ticker) table).bind fun row => rowQuote? now row pair.2
    exact ⟨_, rfl, (hgroups.append_left _).trans hall⟩

end PriceBoard.Fiat
