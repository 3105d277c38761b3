import PriceBoard.Provider.Polygon
import PriceBoard.Source.Basic

/-!
# Currencies

The fiat source prices assets such as `FIAT:EUR-USD`: a currency, in US dollars.  The dollar itself
has the price one; for all other currencies of a batch one request is made.  The price of a currency
is the current bid, or the close of the day before if there is no bid above zero, and a currency
without either is left out.
-/

namespace PriceBoard.Fiat

variable {ε : Type}

/-- The blockchain of currencies. -/
def blockchain : String :=
  "FIAT"

/-- The currency in which all prices are. -/
def target : String :=
  "USD"

/-! ## Assets -/

/-- The part of a pair, without blanks and in upper case. -/
def currencyPart (part : List Char) : String :=
  String.ofList (Text.upperWord (Text.trimWord Text.isBlank part))

/-- The currency that the asset prices, in upper case, if it is a pair with the dollar. -/
def sourceCurrency? (asset : Asset) : Option String :=
  if Text.upper asset.blockchain = blockchain then
    match Text.splitWord '-' asset.symbol.toList with
    | [first, second] =>
      let source := currencyPart first
      if !source.isEmpty && currencyPart second == target then some source else none
    | _ => none
  else none

/-- The ticker that has to be asked for, and the asset, for a currency other than the dollar. -/
def asked? (asset : Asset) : Option (String × Asset) :=
  match sourceCurrency? asset with
  | none => none
  | some source =>
    if source = target then none else some (Provider.Polygon.ticker source target, asset)

/-! ## Rows -/

/-- What an answer says about a currency: the current bid, the close of the day before and the time
of the last update, of whatever kind, each of which may be null. -/
structure Row where
  bid : Json
  previousClose : Json
  updated : Json

/-- The row of a currency with figures. -/
def Row.ofFigures (figures : Provider.ForexFigures) : Row where
  bid := .decimal figures.bid
  previousClose := .decimal figures.previousClose
  updated := figures.updated.elim .null .integer

/-! ## Prices -/

/-- Whether the content is a number above zero.  What counts as absent is not, and content that is
no number cannot be compared. -/
def isUsable (content : Json) : Except Fault Bool :=
  if content.isVoid then .ok false
  else
    match content with
    | .bool value => .ok value
    | .integer value => .ok (0 < value)
    | .double value => .ok (Double.isAboveZero value)
    | .decimal value => value.isPositive.mapError .decimal
    | other =>
      .error (.general .badType
        (.ofText ("'>' not supported between instances of '" ++ other.kindName ++ "' and 'int'")))

/-- The price in a row, if it has one. -/
def price? (row : Row) : Except Fault (Option Json) := do
  if ← isUsable row.bid then return some row.bid
  if ← isUsable row.previousClose then return some row.previousClose
  return none

/-- The quotation of a pair. -/
def quote (asset : Asset) (price timestamp : Json) : Except Fault Quotation :=
  Quotation.report blockchain asset.symbol price (.decimal (.finite .zero)) timestamp

/-- The quotations of the assets that share a ticker. -/
def quoteTicker (now : Int) (table : List (Spelling × Row)) (ticker : String)
    (assets : List Asset) : Outcome ε (List Quotation) :=
  match valueAt? (Spelling.ofText ticker) table with
  | none => do
    Outcome.note ("[FIAT][missing_ticker] ticker=" ++ ticker)
    return []
  | some row => do
    match ← Outcome.ofExcept (price? row) with
    | none =>
      Outcome.note ("[FIAT][no_positive_price] ticker=" ++ ticker)
      return []
    | some price =>
      let timestamp := if row.updated.isVoid then .integer now else row.updated
      Outcome.ofExcept (assets.mapM fun asset => quote asset price timestamp)

/-! ## The source -/

/-- The quotations of the assets; `snapshot` asks the provider about tickers. -/
def quotations (snapshot : List String → Outcome ε (List (Spelling × Row))) (now : Int)
    (assets : List Asset) : Outcome ε (List Quotation) := do
  let _ ← Outcome.collect (fun asset => do
      Outcome.note ("[FIAT][unsupported_asset] asset=" ++ Asset.text asset)
      return ([] : List Quotation))
    (assets.filter fun asset => (sourceCurrency? asset).isNone)
  let dollars ← Outcome.ofExcept
    ((assets.filter fun asset => sourceCurrency? asset = some target).mapM fun asset =>
      quote asset (.decimal (.finite .one)) (.integer now))
  let groups := groupByLabel Prod.fst (assets.filterMap asked?)
  if groups.isEmpty then return dollars
  let table ← snapshot (groups.map Prod.fst)
  let others ← Outcome.collect
    (fun (ticker, members) => quoteTicker now table ticker (members.map Prod.snd)) groups
  return dollars ++ others

/-- The source of currency prices. -/
def source (snapshot : List String → Outcome ε (List (Spelling × Row))) (now : Int) :
    Source ε where
  name := "fiat"
  supports := fun asset => (sourceCurrency? asset).isSome
  quotations := quotations snapshot now

end PriceBoard.Fiat
