import PriceBoard.Dispatch
import PriceBoard.Provider.Binance
import PriceBoard.Provider.Squid
import PriceBoard.Settings
import PriceBoard.Source.Custom
import PriceBoard.Source.Fiat
import PriceBoard.Source.Market
import PriceBoard.Updater.Worker

/-!
# The pipeline

The pipeline is the board in service: the sources that the settings turn on, in the order of their
priority, the dispatch of a batch among them, and the updater that publishes what they quote.

Custom feeds come first, so that a currency with a cross rate is priced by it.  A feed knows its asset
by the whole symbol: a pair with blanks around its two parts is priced as a plain currency.
-/

namespace PriceBoard

open Provider (Web Request)

namespace Pipeline

/-! ## Sources -/

/-- Seconds that a request may take. -/
def timeout (settings : Settings) : Seconds :=
  .fraction settings.timeout

/-- The price of a market, as a decimal. -/
def tickerPrice (settings : Settings) (web : Web) (symbol : String) :
    Outcome Request Decimal := do
  let price ← Provider.Binance.price
    (Provider.Binance.endpoint settings.tickerUrl (timeout settings)) web symbol
  return .finite price

/-- The price in the index, as a decimal. -/
def indexPrice (settings : Settings) (web : Web) : Outcome Request Decimal := do
  let price ← Provider.Squid.price
    (Provider.Squid.endpoint settings.indexUrl (timeout settings)) web
  return .finite price

/-- The cross rate of the Argentine peso. -/
def arsRate : Custom.CrossRate :=
  ⟨"FIAT", "ARS-USD", "USDTARS", .zero⟩

/-- The cross rate of the Brazilian real. -/
def brlRate : Custom.CrossRate :=
  ⟨"FIAT", "BRL-USD", "USDTBRL", .ofInt 5⟩

/-- The cross rates that the settings turn on. -/
def crossRates (settings : Settings) : List Custom.CrossRate :=
  arsRate :: if settings.brlCrossRate then [brlRate] else []

/-- The custom feeds. -/
def feeds (settings : Settings) (web : Web) (now : Int) : List (Custom.Feed Request) :=
  Custom.indexFeed (indexPrice settings web) now ::
    (crossRates settings).map fun rate => rate.feed (tickerPrice settings web) now

/-- The rows of the currencies with the tickers. -/
def fiatRows (settings : Settings) (key : String) (web : Web) (tickers : List String) :
    Outcome Request (List (Spelling × Fiat.Row)) := do
  let rows ← Provider.Polygon.snapshot
    (Provider.Polygon.endpoint key settings.forexUrl (timeout settings)) web tickers
  return rows.map fun (ticker, figures) => (ticker, .ofFigures figures)

/-- The fiat source, if there is a key for its provider. -/
def fiatSource? (settings : Settings) (web : Web) (now : Int) :
    Option (Source Request) :=
  settings.forexKey.map fun key => Fiat.source (fiatRows settings key web) now

/-- The rows of the coins with the ids. -/
def marketRows (settings : Settings) (key : String) (web : Web) (now : Int)
    (ids : List String) : Outcome Request (List (Spelling × Market.Row)) := do
  let rows ← Provider.Coingecko.prices
    (Provider.Coingecko.endpoint key settings.marketUrl (timeout settings)) web now ids
  return rows.map fun (id, figures) => (id, .ofFigures figures)

/-- The market source, if there is a key for its provider. -/
def marketSource? (settings : Settings) (web : Web) (now : Int) :
    Option (Source Request) :=
  settings.marketKey.map fun key => Market.source (marketRows settings key web now)

/-- The sources, by priority. -/
def sources (settings : Settings) (web : Web) (now : Int) : List (Source Request) :=
  Custom.source (feeds settings web now) ::
    (fiatSource? settings web now).toList ++ (marketSource? settings web now).toList

/-- The notes about sources that are turned off. -/
def disabledNotes (settings : Settings) : List String :=
  (if settings.forexKey.isNone then
    ["[DISPATCH][source_disabled] source=fiat reason=PG_API_KEY not set"] else []) ++
    (if settings.marketKey.isNone then
      ["[DISPATCH][source_disabled] source=market reason=CG_API_KEY not set"] else [])

end Pipeline

/-! ## The pipeline -/

/-- The board in service. -/
structure Pipeline where
  settings : Settings
  worker : Worker
  metrics : Dispatch.Metrics

namespace Pipeline

/-- The pipeline before its first cycle. -/
def build (settings : Settings) : Pipeline where
  settings := settings
  worker := .idle (.initial settings.currencies (.whole settings.interval))
  metrics := .initial

/-- Quotes all assets of the pipeline. -/
def quoteAll (pipeline : Pipeline) (console : Console) (web : Web) (now : Int) :
    Outcome Request Dispatch.Batch :=
  Dispatch.run console (sources pipeline.settings web now) pipeline.worker.updater.assets

/-- What the next cycle meets. -/
def cycleInput (batch : Except Fault Dispatch.Batch) (now : Int) (started finished : Float) :
    CycleInput :=
  ⟨now, started, finished, batch.map Dispatch.Batch.quotations, none⟩

/-- The figures after a batch; a batch that broke off leaves those of the one before. -/
def metricsAfter (pipeline : Pipeline) : Except Fault Dispatch.Batch → Dispatch.Metrics
  | .ok batch => batch.metrics
  | .error _ => pipeline.metrics

/-- What a cycle leaves: the pipeline after it, the pause after it or why it failed, the boards it
published, the requests it made and the lines it logged. -/
structure Cycle where
  pipeline : Pipeline
  result : Except Fault Float
  boards : List Board
  requests : List Request
  log : List String

/-- Runs a cycle by hand. -/
def cycle (pipeline : Pipeline) (console : Console) (web : Web) (now : Int)
    (started finished : Float) : Cycle :=
  let batch := pipeline.quoteAll console web now
  let effect := pipeline.worker.updater.runOnce (cycleInput batch.result now started finished)
  { pipeline := { pipeline with
      worker := { pipeline.worker with updater := effect.updater }
      metrics := pipeline.metricsAfter batch.result }
    result := effect.result
    boards := effect.boards
    requests := batch.requests
    log := batch.log ++ effect.log }

/-- Lets the worker run its next cycle.  A worker that is not at work makes no request. -/
def advance (pipeline : Pipeline) (console : Console) (web : Web) (now : Int)
    (started finished : Float) : Pipeline × List Request × List String :=
  if !pipeline.worker.observe.alive then
    ({ pipeline with worker := pipeline.worker.observe }, [], [])
  else
    let batch := pipeline.quoteAll console web now
    let (worker, _, log) := pipeline.worker.advance (cycleInput batch.result now started finished)
    ({ pipeline with worker := worker, metrics := pipeline.metricsAfter batch.result },
      batch.requests, batch.log ++ log)

end Pipeline

end PriceBoard
