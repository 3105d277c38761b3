import PriceBoard.Decimal.Arithmetic
import PriceBoard.Source.Basic

/-!
# Custom feeds

Some assets have a feed of their own.  The custom source is an ordered list of feeds, and the first
feed that supports an asset is in charge of it.  Feeds are independent: one that fails leaves the
others alone, and the asset is left out.

A cross rate prices a currency by a market in which a dollar is sold for it: the price is the
reciprocal of the market price, from which a reduction in hundredths of a percent may be taken.
-/

namespace PriceBoard.Custom

variable {ε : Type}

/-! ## Feeds -/

/-- A price of a single asset. -/
structure Feed (ε : Type) where
  supports : Asset → Bool
  quotation : Asset → Outcome ε Quotation

/-- The quotation of a feed's own asset at the current time. -/
def quote (blockchain symbol : String) (price : Decimal) (now : Int) : Except Fault Quotation :=
  Quotation.report blockchain symbol (.decimal price) (.decimal (.finite .zero)) (.integer now)

/-! ## The index of Amplitude -/

/-- The blockchain of the indexed token. -/
def indexBlockchain : String :=
  "Amplitude"

/-- The symbol of the indexed token. -/
def indexSymbol : String :=
  "AMPE"

/-- Whether the asset is the indexed token. -/
def isIndexToken (asset : Asset) : Bool :=
  asset.isNamed indexBlockchain indexSymbol

/-- The feed of the indexed token; `price` asks the index. -/
def indexFeed (price : Outcome ε Decimal) (now : Int) : Feed ε where
  supports := isIndexToken
  quotation := fun _ => do
    let value ← price
    Outcome.ofExcept (quote indexBlockchain indexSymbol value now)

/-! ## Cross rates -/

/-- An asset that is priced by a market. -/
structure CrossRate where
  blockchain : String
  symbol : String
  /-- The symbol of the market. -/
  market : String
  /-- The reduction of the price, in hundredths of a percent. -/
  reduction : Numeral

namespace CrossRate

/-- How many units of reduction are the whole price. -/
def wholeReduction : Numeral :=
  .ofInt 10000

/-- Whether the cross rate prices the asset. -/
def supports (rate : CrossRate) (asset : Asset) : Bool :=
  asset.isNamed rate.blockchain rate.symbol

/-- The price less its reduction, and zero at least. -/
def reduced (reduction price : Numeral) : Except Signal Numeral := do
  let product ← price.mul reduction
  let share ← product.div wholeReduction
  let rest ← price.sub share
  return rest.clampNegative

/-- The price after the reduction, if there is one. -/
def afterReduction (rate : CrossRate) (price : Decimal) : Except Signal Decimal :=
  if rate.reduction.isZero then .ok price
  else
    match price with
    | .finite number => (reduced rate.reduction number).map .finite
    | _ => .error .invalid

/-- The reciprocal of the market price; zero, with a note, for a market price of zero. -/
def inverse (rate : CrossRate) (marketPrice : Decimal) : Outcome ε Decimal :=
  match marketPrice.reciprocal with
  | .ok price => Outcome.done price
  | .error .undefinedAtZero => do
    Outcome.note ("[CUSTOM][reciprocal_zero] market_symbol=" ++ rate.market)
    return .finite .zero
  | .error (.signal cause) => Outcome.fail (.decimal cause)

/-- The feed of the cross rate; `ticker` asks for the price of a market. -/
def feed (rate : CrossRate) (ticker : String → Outcome ε Decimal) (now : Int) : Feed ε where
  supports := rate.supports
  quotation := fun _ => do
    let marketPrice ← ticker rate.market
    let price ← rate.inverse marketPrice
    let price ← Outcome.ofExcept ((rate.afterReduction price).mapError .decimal)
    Outcome.ofExcept (quote rate.blockchain rate.symbol price now)

end CrossRate

/-! ## The source -/

/-- Adds a feed behind all others. -/
def register (feeds : List (Feed ε)) (feed : Feed ε) : List (Feed ε) :=
  feeds ++ [feed]

/-- The feed in charge of the asset. -/
def feedFor? (feeds : List (Feed ε)) (asset : Asset) : Option (Feed ε) :=
  feeds.find? fun feed => feed.supports asset

/-- The quotation of one asset. -/
def quotation (feeds : List (Feed ε)) (asset : Asset) : Outcome ε Quotation :=
  match feedFor? feeds asset with
  | none => Outcome.fail (.unsupportedAsset (.ofText ("no custom feed for " ++ asset.text)))
  | some feed => feed.quotation asset

/-- The quotation of one asset, or a note why there is none. -/
def quotationOrNote (feeds : List (Feed ε)) (asset : Asset) : Outcome ε (List Quotation) := do
  match ← (quotation feeds asset).attempt with
  | .ok quotation => return [quotation]
  | .error fault =>
    Outcome.note
      ("[CUSTOM][quote_error] asset=" ++ asset.text ++ " error=" ++ fault.quoted)
    return []

/-- The quotations of the assets. -/
def quotations (feeds : List (Feed ε)) (assets : List Asset) : Outcome ε (List Quotation) :=
  Outcome.collect (quotationOrNote feeds) assets

/-- The source of custom prices. -/
def source (feeds : List (Feed ε)) : Source ε where
  name := "custom"
  supports := fun asset => (feedFor? feeds asset).isSome
  quotations := quotations feeds

end PriceBoard.Custom
