import PriceBoard.Source.Basic

/-!
# Dispatch

A batch of assets is divided among the sources: each asset goes to the first source that supports
it.  Every source quotes its share in one call.  If the call fails, only this share is lost, and
quotations without a price above zero are dropped.

The line about a failure has the fault in words, and so whatever the fault quotes.  If the console
refuses the line, the batch ends there: the sources behind are not called, and there are neither
quotations nor figures.
-/

namespace PriceBoard.Dispatch

variable {ε : Type}

/-! ## Dividing -/

/-- The shares of the sources in a list of assets, and the assets that are left over. -/
def divide : List (Source ε) → List Asset → List (Source ε × List Asset) × List Asset
  | [], remaining => ([], remaining)
  | source :: others, remaining =>
    let (shares, left) := divide others (remaining.filter fun asset => !source.supports asset)
    ((source, remaining.filter source.supports) :: shares, left)

/-- The shares of the sources in a batch, each asset once, and the assets that are left over. -/
def partition (sources : List (Source ε)) (assets : List Asset) :
    List (Source ε × List Asset) × List Asset :=
  divide sources (distinct assets)

/-! ## One share -/

/-- What came of the share of a source. -/
structure Served where
  quotations : List Quotation
  failed : Bool
  dropped : Nat

/-- What comes of a share that is not asked for. -/
def Served.nothing : Served :=
  ⟨[], false, 0⟩

/-- The quotations without a price above zero. -/
def worthless (quotations : List Quotation) : List Quotation :=
  quotations.filter fun quotation => !quotation.price.isPositive

/-- What comes of a share with the result of its source: the quotations with a price above zero are
kept. -/
def Served.of : Except Fault (List Quotation) → Served
  | .error _ => ⟨[], true, 0⟩
  | .ok quotations =>
    { quotations := quotations.filter fun quotation => quotation.price.isPositive
      failed := false
      dropped := (worthless quotations).length }

/-- The note about a quotation that is dropped. -/
def dropNote (name : String) (quotation : Quotation) : String :=
  "[DISPATCH][non_positive_price] source=" ++ name ++ " symbol=" ++ quotation.symbol ++
    " price=" ++ quotation.price.text

/-- The line about a source that failed. -/
def failureNote (name : String) (share : List Asset) (fault : Fault) : Spelling :=
  .ofText ("[DISPATCH][source_error] source=" ++ name ++ " dropped=" ++ toString share.length ++
    " error=") ++ fault.message

/-- Logs what is lost of a share. -/
def report (console : Console) (name : String) (share : List Asset) :
    Except Fault (List Quotation) → Outcome ε Unit
  | .error fault => Outcome.print console (failureNote name share fault)
  | .ok quotations => Outcome.notes ((worthless quotations).map (dropNote name))

/-- Lets a source quote its share.  A source without a share is not called. -/
def serve (console : Console) (source : Source ε) (share : List Asset) : Outcome ε Served :=
  if share.isEmpty then return .nothing
  else do
    let result ← (source.quotations share).attempt
    report console source.name share result
    return .of result

/-! ## The batch -/

/-- Figures about the last batch. -/
structure Metrics where
  /-- How many distinct assets there were. -/
  targets : Nat
  /-- How many assets each source had. -/
  claimed : List (String × Nat)
  /-- How many assets were left over. -/
  unsupported : Nat
  failed : List String
  dropped : Nat
  /-- How many quotations there are. -/
  final : Nat

/-- The figures before the first batch. -/
def Metrics.initial : Metrics :=
  ⟨0, [], 0, [], 0, 0⟩

/-- What came of a batch. -/
structure Batch where
  quotations : List Quotation
  metrics : Metrics

/-- The numbers taken together. -/
def total (numbers : List Nat) : Nat :=
  numbers.foldr (· + ·) 0

/-- The sizes of the shares by the names of the sources. -/
def claimedCounts (shares : List (Source ε × List Asset)) : List (String × Nat) :=
  shares.foldl (fun counts (source, share) => setEntry source.name share.length counts) []

/-- The closing line of a batch. -/
def Metrics.summary (metrics : Metrics) : String :=
  let counts := metrics.claimed.map fun (name, count) => name ++ "_count=" ++ toString count
  let names := Text.commaJoin metrics.failed
  let failed := if names.isEmpty then "-" else names
  "[DISPATCH][batch_resolve] target_count=" ++ toString metrics.targets ++ " " ++
    " ".intercalate counts ++ " unsupported=" ++ toString metrics.unsupported ++
    " failed_sources=" ++ failed ++ " final_count=" ++ toString metrics.final

/-- The batch, from the shares and what came of each, by the names of the sources, and the assets
that are left over. -/
def Batch.of (shares : List (Source ε × List Asset)) (left : List Asset)
    (served : List (String × Served)) : Batch :=
  let quotations := served.flatMap fun (_, result) => result.quotations
  { quotations := quotations
    metrics :=
      { targets := total (shares.map fun (_, share) => share.length) + left.length
        claimed := claimedCounts shares
        unsupported := left.length
        failed := (served.filter fun (_, result) => result.failed).map fun (name, _) => name
        dropped := total (served.map fun (_, result) => result.dropped)
        final := quotations.length } }

/-- Lets a source quote its share, under the name of the source. -/
def serveNamed (console : Console) (entry : Source ε × List Asset) :
    Outcome ε (List (String × Served)) := do
  let result ← serve console entry.1 entry.2
  return [(entry.1.name, result)]

/-- Quotes a batch of assets. -/
def run (console : Console) (sources : List (Source ε)) (assets : List Asset) :
    Outcome ε Batch := do
  let (shares, left) := partition sources assets
  Outcome.notes (left.map fun asset => "[DISPATCH][unsupported_asset] asset=" ++ asset.text)
  let served ← Outcome.collect (serveNamed console) shares
  let batch := Batch.of shares left served
  Outcome.note batch.metrics.summary
  return batch

end PriceBoard.Dispatch
