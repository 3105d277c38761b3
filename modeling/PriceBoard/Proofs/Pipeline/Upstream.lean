import PriceBoard.Proofs.Pipeline.Printing

/-!
# One answer for each route

A web may answer every request as it likes.  Here it is one that answers by the route of a request:
the index, the market of a symbol, the forex provider and the market provider have one answer each,
whatever tickers or ids they are asked for.

Then what a source quotes for its share can be said asset by asset: `perm_served_custom`,
`perm_served_market`, and `perm_served_fiat` unless the forex provider is asked in vain.
-/

namespace PriceBoard

/-! ## Routes -/

namespace Provider

/-- Where a request goes. -/
inductive Route where
  | index
  | ticker (symbol : String)
  | forex
  | market
  | other

/-- The route of a request: a question that is posted goes to the index, and a query is told by its
parameters. -/
def Request.route (request : Request) : Route :=
  match request.payload with
  | .posted _ => .index
  | .nothing => .other
  | .query parameters =>
    match valueAt? "symbol" parameters with
    | some symbol => .ticker symbol
    | none =>
      if (valueAt? "tickers" parameters).isSome then .forex
      else if (valueAt? "ids" parameters).isSome then .market
      else .other

/-- The web that answers by the routes. -/
def webOf (upstream : Route → Except Fault Reply) : Web :=
  fun request => upstream request.route

end Provider

namespace Pipeline

open Provider

variable {settings : Settings} {key : String} {upstream : Route → Except Fault Reply} {now : Int}

/-! ## Tables -/

/-- What the forex provider reports. -/
def forexAnswer (settings : Settings) (key : String) (upstream : Route → Except Fault Reply) :
    Except Fault (List (Spelling × ForexFigures)) :=
  (Polygon.endpoint key settings.forexUrl (timeout settings)).answer (upstream .forex) >>=
    Polygon.rows

/-- What the market provider reports. -/
def marketAnswer (settings : Settings) (key : String) (upstream : Route → Except Fault Reply)
    (now : Int) : Except Fault (List (Spelling × MarketFigures)) :=
  (Coingecko.endpoint key settings.marketUrl (timeout settings)).answer (upstream .market) >>=
    Coingecko.rows now

/-- The rows of the forex provider; none, if it fails. -/
def fiatTable (settings : Settings) (key : String) (upstream : Route → Except Fault Reply) :
    List (Spelling × Fiat.Row) :=
  ((forexAnswer settings key upstream).toOption.getD []).map fun entry =>
    (entry.1, .ofFigures entry.2)

/-- The rows of the market provider; none, if it fails. -/
def marketTable (settings : Settings) (key : String) (upstream : Route → Except Fault Reply)
    (now : Int) : List (Spelling × Market.Row) :=
  ((marketAnswer settings key upstream now).toOption.getD []).map fun entry =>
    (entry.1, .ofFigures entry.2)

theorem plain_fiatTable : ∀ entry ∈ fiatTable settings key upstream, entry.2.Plain := by
  intro entry hentry
  obtain ⟨figures, hfigures, rfl⟩ := List.mem_map.mp hentry
  cases hanswer : forexAnswer settings key upstream with
  | error fault => simp [hanswer, Except.toOption] at hfigures
  | ok rows =>
      simp only [hanswer, Except.toOption, Option.getD_some] at hfigures
      obtain ⟨document, -, hrows⟩ := bind_eq_ok hanswer
      exact Polygon.plain_rows hrows figures hfigures

theorem plain_marketTable : ∀ entry ∈ marketTable settings key upstream now, entry.2.Plain := by
  intro entry hentry
  obtain ⟨figures, hfigures, rfl⟩ := List.mem_map.mp hentry
  cases hanswer : marketAnswer settings key upstream now with
  | error fault => simp [hanswer, Except.toOption] at hfigures
  | ok rows =>
      simp only [hanswer, Except.toOption, Option.getD_some] at hfigures
      obtain ⟨document, -, hrows⟩ := bind_eq_ok hanswer
      exact Coingecko.plain_rows hrows figures hfigures

/-! ## Calls -/

/-- Whatever tickers are asked for, the answer is the same. -/
theorem result_snapshot {tickers : List String} (htickers : tickers ≠ []) :
    (Polygon.snapshot (Polygon.endpoint key settings.forexUrl (timeout settings))
      (webOf upstream) tickers).result = forexAnswer settings key upstream := by
  rw [Polygon.result_snapshot _ _ htickers]
  rfl

theorem result_prices {ids : List String} (hids : ids ≠ []) :
    (Coingecko.prices (Coingecko.endpoint key settings.marketUrl (timeout settings))
      (webOf upstream) now ids).result = marketAnswer settings key upstream now := by
  rw [Coingecko.result_prices _ _ _ hids]
  rfl

theorem result_fiatRows_webOf {tickers : List String} (htickers : tickers ≠ []) :
    (fiatRows settings key (webOf upstream) tickers).result =
      (forexAnswer settings key upstream).map fun _ => fiatTable settings key upstream := by
  rw [result_fiatRows, result_snapshot htickers]
  cases hanswer : forexAnswer settings key upstream with
  | error fault => rfl
  | ok rows => simp [Except.map, fiatTable, hanswer, Except.toOption]

theorem result_marketRows_webOf {ids : List String} (hids : ids ≠ []) :
    (marketRows settings key (webOf upstream) now ids).result =
      (marketAnswer settings key upstream now).map fun _ =>
        marketTable settings key upstream now := by
  rw [result_marketRows, result_prices hids]
  cases hanswer : marketAnswer settings key upstream now with
  | error fault => rfl
  | ok rows => simp [Except.map, marketTable, hanswer, Except.toOption]

/-! ## Shares -/

theorem perm_served_custom {feeds : List (Custom.Feed Request)} {share : List Asset} :
    (Dispatch.served (Custom.source feeds) share).quotations.Perm (share.filterMap fun asset =>
      (Custom.quotation feeds asset).result.toOption.filter
        fun quotation => quotation.price.isPositive) := by
  obtain ⟨found, hfound, hperm⟩ := Custom.perm_quotations feeds share
  exact Dispatch.perm_served hfound hperm

theorem mem_served_custom {feeds : List (Custom.Feed Request)} {share : List Asset}
    {quotation : Quotation} :
    quotation ∈ (Dispatch.served (Custom.source feeds) share).quotations ↔
      ∃ asset ∈ share, (Custom.quotation feeds asset).result = .ok quotation ∧
        quotation.price.isPositive = true := by
  simp only [perm_served_custom.mem_iff, List.mem_filterMap, Option.filter_eq_some_iff,
    toOption_eq_some_iff]

theorem perm_served_fiat {share : List Asset}
    (hanswer : Fiat.tickersOf share ≠ [] → ∃ rows, forexAnswer settings key upstream = .ok rows) :
    (Dispatch.served
      (Fiat.source (fiatRows settings key (webOf upstream)) now) share).quotations.Perm
        (share.filterMap fun asset =>
          (Fiat.quoteIn? now (fiatTable settings key upstream) asset).filter
            fun quotation => quotation.price.isPositive) := by
  have hrows : Fiat.tickersOf share ≠ [] →
      (fiatRows settings key (webOf upstream) (Fiat.tickersOf share)).result =
        .ok (fiatTable settings key upstream) := by
    intro htickers
    obtain ⟨rows, hrows⟩ := hanswer htickers
    rw [result_fiatRows_webOf htickers, hrows]
    rfl
  obtain ⟨found, hfound, hperm⟩ := Fiat.perm_quotations plain_fiatTable hrows
  have hresult : ((Fiat.source (fiatRows settings key (webOf upstream)) now).quotations
      share).result = .ok found := hfound
  exact Dispatch.perm_served hresult hperm

theorem mem_served_fiat {share : List Asset}
    (hanswer : Fiat.tickersOf share ≠ [] → ∃ rows, forexAnswer settings key upstream = .ok rows)
    {quotation : Quotation} :
    quotation ∈ (Dispatch.served
        (Fiat.source (fiatRows settings key (webOf upstream)) now) share).quotations ↔
      ∃ asset ∈ share, Fiat.quoteIn? now (fiatTable settings key upstream) asset =
        some quotation ∧ quotation.price.isPositive = true := by
  simp only [(perm_served_fiat hanswer).mem_iff, List.mem_filterMap, Option.filter_eq_some_iff]

/-- If the forex provider is asked in vain, the whole share is lost. -/
theorem served_fiat_of_error {share : List Asset} {fault : Fault}
    (htickers : Fiat.tickersOf share ≠ [])
    (hanswer : forexAnswer settings key upstream = .error fault) :
    (Dispatch.served
      (Fiat.source (fiatRows settings key (webOf upstream)) now) share).quotations = [] := by
  have hrows : (fiatRows settings key (webOf upstream) (Fiat.tickersOf share)).result =
      .error fault := by
    rw [result_fiatRows_webOf htickers, hanswer]
    rfl
  exact Dispatch.quotations_served_of_error (Fiat.result_quotations_of_error htickers hrows)

/-- The market provider is asked about every asset, so that its failure makes no difference between
an asset in company and alone. -/
theorem perm_served_market {share : List Asset} :
    (Dispatch.served
      (Market.source (marketRows settings key (webOf upstream) now)) share).quotations.Perm
        (share.filterMap fun asset =>
          (Market.quoteIn? (marketTable settings key upstream now) asset).filter
            fun quotation => quotation.price.isPositive) := by
  by_cases hids : Market.idsOf share = []
  · obtain ⟨found, hfound, hperm⟩ :=
      Market.perm_quotations plain_marketTable fun hsome => absurd hids hsome
    exact Dispatch.perm_served hfound hperm
  · have hrows : (marketRows settings key (webOf upstream) now (Market.idsOf share)).result = _ :=
      result_marketRows_webOf hids
    cases hanswer : marketAnswer settings key upstream now with
    | ok rows =>
        rw [hanswer] at hrows
        obtain ⟨found, hfound, hperm⟩ := Market.perm_quotations plain_marketTable fun _ => hrows
        exact Dispatch.perm_served hfound hperm
    | error fault =>
        -- the table is empty then, and nothing can be quoted by it
        rw [hanswer] at hrows
        rw [Dispatch.quotations_served_of_error (Market.result_quotations_of_error hids hrows)]
        simp [Market.quoteIn?, marketTable, hanswer, Except.toOption, valueAt?]

theorem mem_served_market {share : List Asset} {quotation : Quotation} :
    quotation ∈ (Dispatch.served
        (Market.source (marketRows settings key (webOf upstream) now)) share).quotations ↔
      ∃ asset ∈ share, Market.quoteIn? (marketTable settings key upstream now) asset =
        some quotation ∧ quotation.price.isPositive = true := by
  simp only [perm_served_market.mem_iff, List.mem_filterMap, Option.filter_eq_some_iff]

end Pipeline

end PriceBoard
