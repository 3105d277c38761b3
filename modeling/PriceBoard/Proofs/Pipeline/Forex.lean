import PriceBoard.Proofs.Pipeline.Upstream

/-!
# The call to the forex provider

In a cycle there is one call to the forex provider at most, about all currencies of the fiat source
except the dollar.  `mem_requests_forexCall` says that this is what the cycle sends to the provider,
and `forexAnswered_iff` when it is not sent in vain.
-/

namespace PriceBoard.Pipeline

open Provider

variable {settings : Settings} {upstream : Route → Except Fault Reply} {now : Int}
  {assets : List Asset} {request : Request}

/-! ## The forex call -/

/-- The call to the forex provider in a cycle: about all tickers of the fiat source's share. -/
def forexCall (settings : Settings) (web : Web) (assets : List Asset) :
    Outcome Request (List (Spelling × ForexFigures)) :=
  match settings.forexKey with
  | none => Outcome.done []
  | some key =>
    Polygon.snapshot (Polygon.endpoint key settings.forexUrl (timeout settings)) web
      (Fiat.tickersOf ((distinct assets).filter (fiatOwned settings)))

/-- Whether the call was not made in vain. -/
def ForexAnswered (settings : Settings) (upstream : Route → Except Fault Reply)
    (assets : List Asset) : Prop :=
  ∃ table, (forexCall settings (webOf upstream) assets).result = .ok table

/-- The call fails just if there is something to ask and the provider fails. -/
theorem forexAnswered_iff :
    ForexAnswered settings upstream assets ↔
      ∀ key, settings.forexKey = some key →
        (∀ asset ∈ assets, fiatOwned settings asset = true → Fiat.asked? asset = none) ∨
          ∃ rows, forexAnswer settings key upstream = .ok rows := by
  unfold ForexAnswered forexCall
  cases hkey : settings.forexKey with
  | none => exact iff_of_true ⟨[], rfl⟩ fun _ hkey => nomatch hkey
  | some key =>
      have htickers : Fiat.tickersOf ((distinct assets).filter (fiatOwned settings)) = [] ↔
          ∀ asset ∈ assets, fiatOwned settings asset = true → Fiat.asked? asset = none := by
        rw [Fiat.tickersOf_eq_nil_iff]
        simp
      simp only [Option.some.injEq, forall_eq']
      rw [← htickers]
      by_cases hnone : Fiat.tickersOf ((distinct assets).filter (fiatOwned settings)) = []
      · simp only [hnone, true_or, iff_true]
        exact ⟨[], rfl⟩
      · simp only [hnone, false_or]
        rw [result_snapshot hnone]

theorem not_forexAnswered {key : String} (hkey : settings.forexKey = some key)
    (hfailed : ¬ ForexAnswered settings upstream assets) :
    Fiat.tickersOf ((distinct assets).filter (fiatOwned settings)) ≠ [] ∧
      ∃ fault, forexAnswer settings key upstream = .error fault := by
  constructor
  · intro hnone
    refine hfailed ⟨[], ?_⟩
    simp only [forexCall, hkey, hnone]
    rfl
  · cases hanswer : forexAnswer settings key upstream with
    | error fault => exact ⟨fault, rfl⟩
    | ok rows =>
        refine absurd (forexAnswered_iff.mpr fun other hother => .inr ?_) hfailed
        cases hkey.symm.trans hother
        exact ⟨rows, hanswer⟩

/-! ## Requests -/

/-- Custom feeds ask the index and markets only. -/
theorem route_of_custom {web : Web}
    (hrequest : request ∈ (Custom.quotations (feeds settings web now) assets).requests) :
    request.route ≠ .forex ∧ request.route ≠ .market := by
  obtain ⟨feed, hfeed, asset, -, hrequest⟩ := Custom.mem_requests_quotations hrequest
  rcases mem_feeds.mp hfeed with rfl | ⟨rate, -, rfl⟩
  · rw [Custom.requests_indexFeed, indexPrice, Outcome.requests_bind_eq_first fun _ => rfl,
      Squid.price, Outcome.requests_bind_eq_first fun _ => rfl] at hrequest
    cases List.mem_singleton.mp hrequest
    simp [Request.route, Endpoint.request]
  · rw [Custom.requests_crossRate, tickerPrice, Outcome.requests_bind_eq_first fun _ => rfl,
      Binance.price, Outcome.requests_bind_eq_first fun _ => rfl] at hrequest
    cases List.mem_singleton.mp hrequest
    simp [Request.route, Endpoint.request, valueAt?]

theorem route_of_prices {endpoint : Endpoint} {web : Web} {ids : List String}
    (hrequest : request ∈ (Coingecko.prices endpoint web now ids).requests) :
    request.route = .market := by
  unfold Coingecko.prices at hrequest
  split at hrequest
  · cases hrequest
  · rw [Outcome.requests_bind_eq_first fun _ => rfl] at hrequest
    cases List.mem_singleton.mp hrequest
    simp [Request.route, Endpoint.request, Coingecko.query, valueAt?]

/-- The market source sends its call to the provider and nothing else. -/
theorem requests_market {key : String} {web : Web} :
    (Market.quotations (marketRows settings key web now) assets).requests =
      (Coingecko.prices (Coingecko.endpoint key settings.marketUrl (timeout settings)) web now
        (Market.idsOf assets)).requests := by
  rw [Market.requests_quotations]
  split
  · simp [*, Coingecko.prices]
  · exact Outcome.requests_bind_eq_first fun _ => rfl

/-- The fiat source sends its call to the provider and nothing else. -/
theorem requests_fiat {key : String} {web : Web} :
    (Fiat.quotations (fiatRows settings key web) now assets).requests =
      (Polygon.snapshot (Polygon.endpoint key settings.forexUrl (timeout settings)) web
        (Fiat.tickersOf assets)).requests := by
  rw [Fiat.requests_quotations]
  split
  · simp [*, Polygon.snapshot]
  · exact Outcome.requests_bind_eq_first fun _ => rfl

theorem route_of_snapshot {endpoint : Endpoint} {web : Web} {tickers : List String}
    (hrequest : request ∈ (Polygon.snapshot endpoint web tickers).requests) :
    request.route = .forex := by
  unfold Polygon.snapshot at hrequest
  split at hrequest
  · cases hrequest
  · rw [Outcome.requests_bind_eq_first fun _ => rfl] at hrequest
    cases List.mem_singleton.mp hrequest
    simp [Request.route, Endpoint.request, valueAt?]

end PriceBoard.Pipeline
