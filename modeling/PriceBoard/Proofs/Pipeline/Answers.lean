import PriceBoard.Proofs.Pipeline.Forex

/-!
# What a web answers in a cycle

A web need not answer by routes.  But a cycle asks the forex provider once and the market provider
once, and the index and the markets in one way each, so that in one cycle every web is as good as
the one that answers by the routes what it answers there (`quotations_batch_answersIn`).  What is
known about webs of the second kind is known about all.
-/

namespace PriceBoard

namespace Fiat

/-- Only the answer about the tickers of the assets matters. -/
theorem quotations_congr {ε : Type} {now : Int} {assets : List Asset}
    {first second : List String → Outcome ε (List (Spelling × Row))}
    (hsame : first (tickersOf assets) = second (tickersOf assets)) :
    quotations first now assets = quotations second now assets := by
  unfold tickersOf at hsame
  simp only [quotations, hsame]

end Fiat

namespace Market

/-- Only the answer about the ids of the assets matters. -/
theorem quotations_congr {ε : Type} {assets : List Asset}
    {first second : List String → Outcome ε (List (Spelling × Row))}
    (hsame : first (idsOf assets) = second (idsOf assets)) :
    quotations first assets = quotations second assets := by
  unfold idsOf at hsame
  simp only [quotations, hsame]

end Market

namespace Pipeline

open Provider

variable {settings : Settings} {web : Web} {now : Int} {assets : List Asset} {request : Request}

/-! ## The market call -/

/-- The call to the market provider in a cycle: about all ids of the market source's share. -/
def marketCall (settings : Settings) (web : Web) (now : Int) (assets : List Asset) :
    Outcome Request (List (Spelling × MarketFigures)) :=
  match settings.marketKey with
  | none => Outcome.done []
  | some key =>
    Coingecko.prices (Coingecko.endpoint key settings.marketUrl (timeout settings)) web now
      (Market.idsOf ((distinct assets).filter (marketOwned settings)))

/-- The call is what a batch that comes to its end sends to the market provider. -/
theorem mem_requests_marketCall :
    request ∈ (marketCall settings web now assets).requests ↔
      request ∈ Dispatch.requestsOf (Dispatch.partition (sources settings web now) assets).1 ∧
        request.route = .market := by
  rw [Dispatch.mem_requestsOf]
  simp only [mem_partition_sources]
  constructor
  · intro hrequest
    unfold marketCall at hrequest
    cases hkey : settings.marketKey with
    | none =>
        rw [hkey] at hrequest
        cases hrequest
    | some key =>
        simp only [hkey] at hrequest
        refine ⟨⟨_, .inr (.inr ⟨key, rfl, rfl⟩), ?_, ?_⟩, route_of_prices hrequest⟩
        · intro hshare
          simp only at hshare
          rw [hshare] at hrequest
          cases hrequest
        · exact requests_market ▸ hrequest
  · rintro ⟨⟨entry, rfl | ⟨key, -, rfl⟩ | ⟨key, hkey, rfl⟩, -, hrequest⟩, hroute⟩
    · exact absurd hroute (route_of_custom hrequest).2
    · have hcall : request ∈ (Fiat.quotations (fiatRows settings key web) now
          ((distinct assets).filter (fiatOwned settings))).requests := hrequest
      rw [requests_fiat] at hcall
      simp [route_of_snapshot hcall] at hroute
    · have hcall : request ∈ (Market.quotations (marketRows settings key web now)
          ((distinct assets).filter (marketOwned settings))).requests := hrequest
      rw [requests_market] at hcall
      simpa only [marketCall, hkey] using hcall

/-! ## Answers by route -/

/-- What the first of the requests is answered. -/
def answerTo (web : Web) : List Request → Except Fault Reply
  | [] => .error (.timeout "")
  | request :: _ => web request

theorem answerTo_of_forall {requests : List Request} {reply : Except Fault Reply}
    (hrequests : requests ≠ []) (hreply : ∀ request ∈ requests, web request = reply) :
    answerTo web requests = reply := by
  cases requests with
  | nil => exact absurd rfl hrequests
  | cons asked others => exact hreply asked List.mem_cons_self

/-- What the web answers in a cycle over the assets, by routes. -/
def answersIn (settings : Settings) (web : Web) (now : Int) (assets : List Asset) :
    Route → Except Fault Reply
  | .index => answerTo web (indexPrice settings web).requests
  | .ticker symbol => answerTo web (tickerPrice settings web symbol).requests
  | .forex => answerTo web (forexCall settings web assets).requests
  | .market => answerTo web (marketCall settings web now assets).requests
  | .other => answerTo web []

/-- The request about the index. -/
def indexRequest (settings : Settings) : Request :=
  (Squid.endpoint settings.indexUrl (timeout settings)).request "" (.posted Squid.question)

/-- The request about a market. -/
def tickerRequest (settings : Settings) (market : String) : Request :=
  (Binance.endpoint settings.tickerUrl (timeout settings)).request "/api/v3/ticker/price"
    (.query [("symbol", Text.upper market)])

theorem requests_indexPrice : (indexPrice settings web).requests = [indexRequest settings] := by
  rw [indexPrice, Outcome.requests_bind_eq_first fun _ => rfl, Squid.price,
    Outcome.requests_bind_eq_first fun _ => rfl]
  rfl

theorem requests_tickerPrice {market : String} :
    (tickerPrice settings web market).requests = [tickerRequest settings market] := by
  rw [tickerPrice, Outcome.requests_bind_eq_first fun _ => rfl, Binance.price,
    Outcome.requests_bind_eq_first fun _ => rfl]
  rfl

theorem indexPrice_answersIn :
    indexPrice settings (webOf (answersIn settings web now assets)) = indexPrice settings web := by
  have hanswer : webOf (answersIn settings web now assets) (indexRequest settings) =
      web (indexRequest settings) := by
    change answerTo web (indexPrice settings web).requests = web (indexRequest settings)
    rw [requests_indexPrice, answerTo]
  unfold indexRequest at hanswer
  simp only [indexPrice, Squid.price, Endpoint.send]
  rw [hanswer]

theorem tickerPrice_answersIn {symbol : String} (hupper : Text.upper symbol = symbol) :
    tickerPrice settings (webOf (answersIn settings web now assets)) symbol =
      tickerPrice settings web symbol := by
  have hanswer : webOf (answersIn settings web now assets) (tickerRequest settings symbol) =
      web (tickerRequest settings symbol) := by
    have hroute : (tickerRequest settings symbol).route = .ticker symbol := by
      simp [tickerRequest, Request.route, Endpoint.request, valueAt?, hupper]
    rw [webOf, hroute, answersIn, requests_tickerPrice, answerTo]
  unfold tickerRequest at hanswer
  simp only [tickerPrice, Binance.price, Endpoint.send]
  rw [hanswer]

/-- The markets of cross rates are spelled in upper case. -/
theorem upper_market_of_mem_crossRates {rate : Custom.CrossRate}
    (hrate : rate ∈ crossRates settings) : Text.upper rate.market = rate.market := by
  unfold crossRates at hrate
  rcases List.mem_cons.mp hrate with rfl | hrate
  · rfl
  · split at hrate
    · cases List.mem_singleton.mp hrate
      rfl
    · cases hrate

theorem feeds_answersIn :
    feeds settings (webOf (answersIn settings web now assets)) now = feeds settings web now := by
  unfold feeds
  rw [indexPrice_answersIn]
  congr 1
  refine List.map_congr_left fun rate hrate => ?_
  have hticker : tickerPrice settings (webOf (answersIn settings web now assets)) rate.market =
      tickerPrice settings web rate.market :=
    tickerPrice_answersIn (upper_market_of_mem_crossRates hrate)
  simp only [Custom.CrossRate.feed, hticker]

theorem requests_snapshot {endpoint : Endpoint} {tickers : List String} (htickers : tickers ≠ []) :
    (Polygon.snapshot endpoint web tickers).requests =
      [endpoint.request "/v2/snapshot/locale/global/markets/forex/tickers"
        (.query [("tickers", Text.commaJoin tickers)])] := by
  rw [Polygon.snapshot, if_neg (by simpa using htickers),
    Outcome.requests_bind_eq_first fun _ => rfl]
  rfl

theorem requests_prices {endpoint : Endpoint} {ids : List String} (hids : ids ≠ []) :
    (Coingecko.prices endpoint web now ids).requests =
      [endpoint.request "/simple/price" (.query (Coingecko.query ids))] := by
  rw [Coingecko.prices, if_neg (by simpa using hids), Outcome.requests_bind_eq_first fun _ => rfl]
  rfl

theorem snapshot_answersIn {key : String} (hkey : settings.forexKey = some key) :
    let tickers := Fiat.tickersOf ((distinct assets).filter (fiatOwned settings))
    let endpoint := Polygon.endpoint key settings.forexUrl (timeout settings)
    Polygon.snapshot endpoint (webOf (answersIn settings web now assets)) tickers =
      Polygon.snapshot endpoint web tickers := by
  intro tickers endpoint
  by_cases htickers : tickers = []
  · rw [htickers]
    rfl
  · let asked := endpoint.request "/v2/snapshot/locale/global/markets/forex/tickers"
      (.query [("tickers", Text.commaJoin tickers)])
    have hrequests : (forexCall settings web assets).requests = [asked] := by
      simp only [forexCall, hkey]
      exact requests_snapshot htickers
    have hanswer : webOf (answersIn settings web now assets) asked = web asked := by
      have hroute : asked.route = .forex := by
        simp [asked, Request.route, Endpoint.request, valueAt?]
      rw [webOf, hroute, answersIn, hrequests, answerTo]
    simp only [Polygon.snapshot, Endpoint.send]
    rw [hanswer]

theorem prices_answersIn {key : String} (hkey : settings.marketKey = some key) :
    let ids := Market.idsOf ((distinct assets).filter (marketOwned settings))
    let endpoint := Coingecko.endpoint key settings.marketUrl (timeout settings)
    Coingecko.prices endpoint (webOf (answersIn settings web now assets)) now ids =
      Coingecko.prices endpoint web now ids := by
  intro ids endpoint
  by_cases hids : ids = []
  · rw [hids]
    rfl
  · let asked := endpoint.request "/simple/price" (.query (Coingecko.query ids))
    have hrequests : (marketCall settings web now assets).requests = [asked] := by
      simp only [marketCall, hkey]
      exact requests_prices hids
    have hanswer : webOf (answersIn settings web now assets) asked = web asked := by
      have hroute : asked.route = .market := by
        simp [asked, Request.route, Endpoint.request, Coingecko.query, valueAt?]
      rw [webOf, hroute, answersIn, hrequests, answerTo]
    simp only [Coingecko.prices, Endpoint.send]
    rw [hanswer]

theorem answersIn_market {key : String} {reply : Except Fault Reply}
    (hkey : settings.marketKey = some key)
    (hids : Market.idsOf ((distinct assets).filter (marketOwned settings)) ≠ [])
    (hreply : ∀ request ∈ Dispatch.requestsOf
        (Dispatch.partition (sources settings web now) assets).1,
      request.route = .market → web request = reply) :
    answersIn settings web now assets .market = reply := by
  refine answerTo_of_forall ?_ fun request hrequest => ?_
  · simp only [marketCall, hkey, requests_prices hids]
    exact List.cons_ne_nil _ _
  · obtain ⟨hsent, hroute⟩ := mem_requests_marketCall.mp hrequest
    exact hreply request hsent hroute

theorem served_fiat_answersIn {key : String} (hkey : settings.forexKey = some key) :
    let share := (distinct assets).filter (fiatOwned settings)
    Dispatch.served
        (Fiat.source (fiatRows settings key (webOf (answersIn settings web now assets))) now) share =
      Dispatch.served (Fiat.source (fiatRows settings key web) now) share := by
  intro share
  refine Dispatch.served_congr (congrArg Outcome.result (Fiat.quotations_congr ?_))
  simp only [fiatRows, share, snapshot_answersIn hkey]

theorem served_market_answersIn {key : String} (hkey : settings.marketKey = some key) :
    let share := (distinct assets).filter (marketOwned settings)
    Dispatch.served
        (Market.source (marketRows settings key (webOf (answersIn settings web now assets)) now))
        share =
      Dispatch.served (Market.source (marketRows settings key web now)) share := by
  intro share
  refine Dispatch.served_congr (congrArg Outcome.result (Market.quotations_congr ?_))
  simp only [marketRows, share, prices_answersIn hkey]

/-- In a cycle every web is as good as one that answers by the routes. -/
theorem quotations_batch_answersIn (settings : Settings) (web : Web) (now : Int)
    (assets : List Asset) :
    (Dispatch.batch (sources settings (webOf (answersIn settings web now assets)) now)
      assets).quotations = (Dispatch.batch (sources settings web now) assets).quotations := by
  simp only [Dispatch.quotations_batch, Dispatch.quotationsOf, partition_sources,
    List.cons_append, List.flatMap_cons, List.flatMap_append, List.flatMap_map, feeds_answersIn]
  congr 2
  · refine List.flatMap_congr fun key hkey => ?_
    rw [served_fiat_answersIn (Option.mem_toList.mp hkey)]
  · refine List.flatMap_congr fun key hkey => ?_
    rw [served_market_answersIn (Option.mem_toList.mp hkey)]

end Pipeline

end PriceBoard
