import PriceBoard.Proofs.Dispatch.Printing
import PriceBoard.Proofs.Pipeline.Sources
import PriceBoard.Proofs.Provider.Table
import PriceBoard.Proofs.Provider.Unicode

/-!
# Whether failures can be printed

The line about a source that fails quotes what its provider sent, and a console may refuse it.  In
the pipeline this is no matter if the console takes every line, or if the web sends Unicode
(`Printable`): then every batch comes to its end (`result_quoteAll`, `requests_quoteAll`).

## Strategy

The custom source never fails.  The other two have plain tables, so that they fail only with the call
to their provider (`fault_of_fiat`, `fault_of_market`), and such a fault is in plain text.
-/

namespace PriceBoard.Pipeline

open Provider

variable {settings : Settings} {key : String} {console : Console} {web : Web} {now : Int}
  {assets share : List Asset} {fault : Fault}

/-- Whatever is to be printed can be: the console takes every line, or the web sends Unicode. -/
def Printable (console : Console) (web : Web) : Prop :=
  (∀ line, ∃ shown, console.print line = .ok shown) ∨ web.IsUnicode

/-! ## Sources that fail -/

/-- The rows of currencies are those that the provider reports. -/
theorem result_fiatRows (settings : Settings) (key : String) (web : Web) (tickers : List String) :
    (fiatRows settings key web tickers).result =
      (Polygon.snapshot (Polygon.endpoint key settings.forexUrl (timeout settings)) web
        tickers).result.map fun rows => rows.map fun entry => (entry.1, .ofFigures entry.2) := by
  rw [fiatRows, Outcome.result_bind]
  rfl

/-- The rows of coins are those that the provider reports. -/
theorem result_marketRows (settings : Settings) (key : String) (web : Web) (now : Int)
    (ids : List String) :
    (marketRows settings key web now ids).result =
      (Coingecko.prices (Coingecko.endpoint key settings.marketUrl (timeout settings)) web now
        ids).result.map fun rows => rows.map fun entry => (entry.1, .ofFigures entry.2) := by
  rw [marketRows, Outcome.result_bind]
  rfl

theorem plain_fiatRows {tickers : List String} {table : List (Spelling × Fiat.Row)}
    (htable : (fiatRows settings key web tickers).result = .ok table) :
    ∀ entry ∈ table, entry.2.Plain := by
  rw [result_fiatRows] at htable
  obtain ⟨rows, hrows, rfl⟩ := map_eq_ok htable
  exact List.forall_mem_map.mpr (Polygon.plain_snapshot hrows)

theorem plain_marketRows {ids : List String} {table : List (Spelling × Market.Row)}
    (htable : (marketRows settings key web now ids).result = .ok table) :
    ∀ entry ∈ table, entry.2.Plain := by
  rw [result_marketRows] at htable
  obtain ⟨rows, hrows, rfl⟩ := map_eq_ok htable
  exact List.forall_mem_map.mpr (Coingecko.plain_prices hrows)

/-- The fiat source fails only with the call to its provider. -/
theorem fault_of_fiat
    (hfault : (Fiat.quotations (fiatRows settings key web) now share).result = .error fault) :
    (Polygon.snapshot (Polygon.endpoint key settings.forexUrl (timeout settings)) web
      (Fiat.tickersOf share)).result = .error fault := by
  cases hrows : (fiatRows settings key web (Fiat.tickersOf share)).result with
  | error cause =>
      have hcall := map_eq_error ((result_fiatRows settings key web _).symm.trans hrows)
      have htickers : Fiat.tickersOf share ≠ [] := by
        intro hnone
        rw [hnone] at hcall
        cases hcall
      cases (Fiat.result_quotations_of_error htickers hrows).symm.trans hfault
      exact hcall
  | ok table =>
      -- nothing in a table that was read can stop the source
      obtain ⟨found, hfound, -⟩ := Fiat.perm_quotations (plain_fiatRows hrows) fun _ => hrows
      cases hfound.symm.trans hfault

/-- The market source fails only with the call to its provider. -/
theorem fault_of_market
    (hfault : (Market.quotations (marketRows settings key web now) share).result = .error fault) :
    (Coingecko.prices (Coingecko.endpoint key settings.marketUrl (timeout settings)) web now
      (Market.idsOf share)).result = .error fault := by
  cases hrows : (marketRows settings key web now (Market.idsOf share)).result with
  | error cause =>
      have hcall := map_eq_error ((result_marketRows settings key web now _).symm.trans hrows)
      have hids : Market.idsOf share ≠ [] := by
        intro hnone
        rw [hnone] at hcall
        cases hcall
      cases (Market.result_quotations_of_error hids hrows).symm.trans hfault
      exact hcall
  | ok table =>
      obtain ⟨found, hfound, -⟩ := Market.perm_quotations (plain_marketRows hrows) fun _ => hrows
      cases hfound.symm.trans hfault

/-- Every failure in a batch can be reported. -/
theorem reported_sources (hprintable : Printable console web) :
    ∀ entry ∈ (Dispatch.partition (sources settings web now) assets).1,
      Dispatch.Reported console entry := by
  rcases hprintable with hconsole | hweb
  · exact fun _ _ _ _ _ => hconsole _
  · intro entry hentry _ fault hfault
    refine Dispatch.exists_print_failureNote console _ _ ?_
    rcases mem_partition_sources.mp hentry with rfl | ⟨key, _, rfl⟩ | ⟨key, _, rfl⟩
    · cases (Custom.result_quotations _ _).symm.trans hfault
    · exact Polygon.isText_of_snapshot hweb (fault_of_fiat hfault)
    · exact Coingecko.isText_of_prices hweb (fault_of_market hfault)

/-! ## Batches -/

variable {pipeline : Pipeline}

theorem result_quoteAll (hprintable : Printable console web) :
    (pipeline.quoteAll console web now).result =
      .ok (Dispatch.batch (sources pipeline.settings web now) pipeline.worker.updater.assets) :=
  Dispatch.result_run_of_reported (reported_sources hprintable)

end PriceBoard.Pipeline
