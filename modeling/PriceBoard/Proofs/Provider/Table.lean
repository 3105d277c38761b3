import PriceBoard.Proofs.Entries
import PriceBoard.Proofs.Outcome
import PriceBoard.Proofs.Provider.Boundary
import PriceBoard.Proofs.Source.Fiat
import PriceBoard.Proofs.Source.Market

/-!
# The tables of providers are plain

Whatever a provider answers, if a table can be read from it then the rows of the table are plain, so
that its source has no trouble with any of them.
-/

namespace PriceBoard

open Provider

/-! ## Polygon -/

theorem Fiat.plain_ofFigures {figures : ForexFigures} (hbid : figures.bid.isFinite = true)
    (hclose : figures.previousClose.isFinite = true) : (Row.ofFigures figures).Plain where
  bid := by
    obtain ⟨number, hnumber⟩ := Decimal.isFinite_iff.mp hbid
    exact ⟨number, by rw [Row.ofFigures, hnumber]⟩
  previousClose := by
    obtain ⟨number, hnumber⟩ := Decimal.isFinite_iff.mp hclose
    exact ⟨number, by rw [Row.ofFigures, hnumber]⟩
  updated := by
    cases hupdated : figures.updated with
    | none => exact .inl (by simp [Row.ofFigures, hupdated])
    | some seconds => exact .inr ⟨seconds, by simp [Row.ofFigures, hupdated]⟩

namespace Provider.Polygon

theorem isFinite_partFigure (fields : Json.Fields) (part name : String) :
    (partFigure fields part name).isFinite = true :=
  isFinite_figureOr rfl _

theorem plain_row {content : Json} {name : Spelling} {figures : ForexFigures}
    (hrow : row content = .ok (some (name, figures))) : (Fiat.Row.ofFigures figures).Plain := by
  cases content with
  | object fields =>
      simp only [row] at hrow
      split at hrow
      · cases hrow
      · obtain ⟨time, -, hrow⟩ := bind_eq_ok hrow
        cases hrow
        exact Fiat.plain_ofFigures (isFinite_partFigure _ _ _) (isFinite_partFigure _ _ _)
  | _ => cases hrow

theorem plain_addRows {table found : List (Spelling × ForexFigures)} {items : List Json}
    (htable : ∀ entry ∈ table, (Fiat.Row.ofFigures entry.2).Plain)
    (hfound : addRows table items = .ok found) :
    ∀ entry ∈ found, (Fiat.Row.ofFigures entry.2).Plain := by
  -- the table grows from row to row, and stays plain
  induction items generalizing table with
  | nil =>
      cases hfound
      exact htable
  | cons content others ih =>
      obtain ⟨entry, hrow, hfound⟩ := bind_eq_ok hfound
      cases entry with
      | none => exact ih htable hfound
      | some entry =>
          have hplain : (Fiat.Row.ofFigures entry.2).Plain := plain_row hrow
          have hnext : ∀ other ∈ setEntry entry.1 entry.2 table,
              (Fiat.Row.ofFigures other.2).Plain := forall_mem_setEntry hplain htable
          exact ih hnext hfound

theorem plain_rows {document : Json} {table : List (Spelling × ForexFigures)}
    (htable : rows document = .ok table) :
    ∀ entry ∈ table, (Fiat.Row.ofFigures entry.2).Plain := by
  cases document with
  | object fields =>
      simp only [rows] at htable
      split at htable
      · cases htable
      · split at htable
        · cases htable
          exact fun _ hentry => absurd hentry List.not_mem_nil
        · split at htable
          · exact plain_addRows (fun _ hentry => absurd hentry List.not_mem_nil) htable
          · cases htable
  | _ => cases htable

theorem result_snapshot (endpoint : Endpoint) (web : Web) {tickers : List String}
    (htickers : tickers ≠ []) :
    (snapshot endpoint web tickers).result =
      endpoint.answer (web (endpoint.request "/v2/snapshot/locale/global/markets/forex/tickers"
        (.query [("tickers", Text.commaJoin tickers)]))) >>= rows := by
  rw [snapshot, if_neg (by simpa using htickers), result_reading]

theorem plain_snapshot {endpoint : Endpoint} {web : Web} {tickers : List String}
    {table : List (Spelling × ForexFigures)}
    (htable : (snapshot endpoint web tickers).result = .ok table) :
    ∀ entry ∈ table, (Fiat.Row.ofFigures entry.2).Plain := by
  unfold snapshot at htable
  split at htable
  · -- nothing was asked
    cases htable
    exact fun _ hentry => absurd hentry List.not_mem_nil
  · rw [Outcome.result_bind] at htable
    obtain ⟨document, -, hrows⟩ := bind_eq_ok htable
    exact plain_rows hrows

end Provider.Polygon

/-! ## CoinGecko -/

namespace Provider.Coingecko

theorem plain_row {now : Int} {id : Spelling} {content : Json} {figures : MarketFigures}
    (hrow : row now id content = .ok figures) : (Market.Row.ofFigures figures).Plain := by
  cases content with
  | object fields =>
      obtain ⟨price, -, hrow⟩ := bind_eq_ok hrow
      obtain ⟨seconds, -, hrow⟩ := bind_eq_ok hrow
      cases hrow
      have hfinite : (figureOr (.finite .zero)
          (Json.memberOrNull "usd_24h_vol" fields)).isFinite = true := isFinite_figureOr rfl _
      obtain ⟨volume, hvolume⟩ := Decimal.isFinite_iff.mp hfinite
      exact ⟨⟨price, rfl⟩, ⟨volume, by simp only [Market.Row.ofFigures, hvolume]⟩, ⟨seconds, rfl⟩⟩
  | _ => cases hrow

theorem plain_rows {now : Int} {document : Json} {table : List (Spelling × MarketFigures)}
    (htable : rows now document = .ok table) :
    ∀ entry ∈ table, (Market.Row.ofFigures entry.2).Plain := by
  cases document with
  | object fields =>
      intro entry hentry
      obtain ⟨field, -, hfield⟩ := mem_of_mapM_eq_ok htable hentry
      obtain ⟨figures, hrow, rfl⟩ := map_eq_ok hfield
      exact plain_row hrow
  | _ => cases htable

theorem result_prices (endpoint : Endpoint) (web : Web) (now : Int) {ids : List String}
    (hids : ids ≠ []) :
    (prices endpoint web now ids).result =
      endpoint.answer (web (endpoint.request "/simple/price" (.query (query ids)))) >>=
        rows now := by
  rw [prices, if_neg (by simpa using hids), result_reading]

theorem plain_prices {endpoint : Endpoint} {web : Web} {now : Int} {ids : List String}
    {table : List (Spelling × MarketFigures)}
    (htable : (prices endpoint web now ids).result = .ok table) :
    ∀ entry ∈ table, (Market.Row.ofFigures entry.2).Plain := by
  unfold prices at htable
  split at htable
  · cases htable
    exact fun _ hentry => absurd hentry List.not_mem_nil
  · rw [Outcome.result_bind] at htable
    obtain ⟨document, -, hrows⟩ := bind_eq_ok htable
    exact plain_rows hrows

end Provider.Coingecko

end PriceBoard
