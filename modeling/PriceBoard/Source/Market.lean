import PriceBoard.Provider.Coingecko
import PriceBoard.Source.Basic

/-!
# Market prices

The market source prices a fixed list of coins.  For all coins of a batch one request is made, by
their ids; a coin that the answer does not mention is left out.
-/

namespace PriceBoard.Market

variable {ε : Type}

/-! ## Assets -/

/-- The ids of the coins, by blockchain and symbol in upper case. -/
def ids : List (Asset × String) :=
  [(⟨"PENDULUM", "PEN"⟩, "pendulum-chain"),
    (⟨"POLKADOT", "DOT"⟩, "polkadot"),
    (⟨"KUSAMA", "KSM"⟩, "kusama"),
    (⟨"ASTAR", "ASTR"⟩, "astar"),
    (⟨"BIFROST", "BNC"⟩, "bifrost-native-coin"),
    (⟨"BIFROST", "VDOT"⟩, "voucher-dot"),
    (⟨"HYDRADX", "HDX"⟩, "hydradx"),
    (⟨"MOONBEAM", "GLMR"⟩, "moonbeam"),
    (⟨"POLKADEX", "PDEX"⟩, "polkadex"),
    (⟨"STELLAR", "XLM"⟩, "stellar")]

/-- The id of the asset, if it is one of the coins. -/
def id? (asset : Asset) : Option String :=
  valueAt? (⟨Text.upper asset.blockchain, Text.upper asset.symbol⟩ : Asset) ids

/-! ## Rows -/

/-- What an answer says about a coin: its price, its volume and the time of the last update, of
whatever kind, each of which may be missing. -/
structure Row where
  price : Option Json
  volume : Option Json
  updated : Option Json

/-- The row of a coin with figures. -/
def Row.ofFigures (figures : Provider.MarketFigures) : Row where
  price := some (.decimal (.finite figures.price))
  volume := some (.decimal figures.volume)
  updated := some (.integer figures.updated)

/-- A value that has to be there. -/
def needed (name : String) (value : Option Json) : Except Fault Json :=
  value.elim (.error (.missingKey (.ofText name))) .ok

/-- The supply of the quotation: the volume, or zero if there is none. -/
def supplyOf (volume : Option Json) : Json :=
  match volume with
  | none => .integer 0
  | some value => if value.isVoid then .integer 0 else value

/-- The quotation of an asset with the row of its coin. -/
def quote (row : Row) (asset : Asset) : Except Fault Quotation := do
  let price ← needed "usd" row.price
  let updated ← needed "last_updated_at" row.updated
  Quotation.report asset.blockchain asset.symbol price (supplyOf row.volume) updated

/-- The quotations of the assets that share an id. -/
def quoteId (table : List (Spelling × Row)) (id : String) (assets : List Asset) :
    Outcome ε (List Quotation) :=
  match valueAt? (Spelling.ofText id) table with
  | none => do
    Outcome.note ("[MARKET][missing_price] id=" ++ id)
    return []
  | some row => Outcome.ofExcept (assets.mapM (quote row))

/-! ## The source -/

/-- The quotations of the assets; `prices` asks the provider about ids. -/
def quotations (prices : List String → Outcome ε (List (Spelling × Row)))
    (assets : List Asset) : Outcome ε (List Quotation) := do
  let _ ← Outcome.collect (fun asset => do
      Outcome.note ("[MARKET][unsupported_asset] asset=" ++ Asset.text asset)
      return ([] : List Quotation))
    (assets.filter fun asset => (id? asset).isNone)
  let groups := groupByLabel Prod.fst (assets.filterMap fun asset => (id? asset).map (·, asset))
  if groups.isEmpty then return []
  let table ← prices (groups.map Prod.fst)
  Outcome.collect (fun (id, members) => quoteId table id (members.map Prod.snd)) groups

/-- The source of market prices. -/
def source (prices : List String → Outcome ε (List (Spelling × Row))) : Source ε where
  name := "market"
  supports := fun asset => (id? asset).isSome
  quotations := quotations prices

end PriceBoard.Market
