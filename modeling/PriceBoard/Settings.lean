import PriceBoard.Asset.Reader

/-!
# Settings

The board is configured by named variables.  A variable that is unset or blank has its default, and
blanks around a value do not belong to it.  The interval is a whole number of seconds and the time
allowed for a request a double, both above zero; a key that is missing turns its provider off.
-/

namespace PriceBoard

/-- What can be configured. -/
structure Settings where
  /-- Seconds from the start of a cycle to the start of the next one. -/
  interval : Nat
  /-- The assets that the board publishes. -/
  currencies : List Asset
  marketKey : Option String
  marketUrl : String
  forexKey : Option String
  forexUrl : String
  tickerUrl : String
  indexUrl : String
  /-- Whether the Brazilian real is priced by its cross rate. -/
  brlCrossRate : Bool
  /-- Seconds that a request may take. -/
  timeout : Float

namespace Settings

/-- The name of the record in messages. -/
def recordName : String :=
  "Settings"

/-! ## Defaults -/

/-- The written form of the assets that are published by default. -/
def defaultCurrencies : String :=
  "FIAT:USD-USD,FIAT:EUR-USD,FIAT:BRL-USD,FIAT:AUD-USD,FIAT:NGN-USD,FIAT:TZS-USD," ++
    "FIAT:ARS-USD,Pendulum:PEN,Amplitude:AMPE,Polkadot:DOT,Kusama:KSM,Astar:ASTR," ++
    "Bifrost:BNC,Bifrost:vDOT,HydraDX:HDX,Moonbeam:GLMR,Polkadex:PDEX,Stellar:XLM"

def defaultInterval : Nat := 10

def defaultMarketUrl : String := "https://pro-api.coingecko.com/api/v3"

def defaultForexUrl : String := "https://api.polygon.io"

def defaultTickerUrl : String := "https://api.binance.com"

def defaultIndexUrl : String := "https://squid.subsquid.io/amplitude-squid/graphql"

def defaultTimeout : Float := 5.0

/-! ## Reading -/

/-- The assets of a written list; the default ones, if it has no item. -/
def currenciesOfText (written : String) : Except Asset.Malformed (List Asset) := do
  let currencies ← Asset.parseUniverse written
  if currencies.isEmpty then Asset.parseUniverse defaultCurrencies else return currencies

/-- Reads the assets, as a written list or as a list of objects. -/
def checkCurrencies : Json → Checked (List Asset)
  | .string written =>
    Checked.here (.string written)
      ((currenciesOfText written.text).mapError fun fault => .refused fault.message)
  | .array items => Checked.all (Asset.check .noRecord) items
  | value => Checked.here value (.error .noList)

/-- Reads the assets from the fields of an object, which has to name them. -/
def currenciesIn (fields : Json.Fields) : Checked (List Asset) :=
  match Json.member? "SUPPORTED_CURRENCIES" fields with
  | none => Checked.here (.object fields) (.error .missing)
  | some value => checkCurrencies value

/-- A key without the blanks around it; a blank key is missing. -/
def usableKey (key : Option String) : Option String :=
  key.bind fun key => if Text.isBlankText key then none else some (Text.strip key)

open Checked Reader in
/-- Reads settings from the fields of an object. -/
def check (fields : Json.Fields) : Checked Settings :=
  apply (apply (apply (apply (apply (apply (apply (apply (apply (apply (.ok Settings.mk)
    (withDefault fields "UPDATE_INTERVAL_SECONDS" positiveInteger defaultInterval))
    (under (.field "SUPPORTED_CURRENCIES") (currenciesIn fields)))
    ((withDefault fields "CG_API_KEY" (optional text) none).map usableKey))
    (withDefault fields "CG_HOST_URL" text defaultMarketUrl))
    ((withDefault fields "PG_API_KEY" (optional text) none).map usableKey))
    (withDefault fields "PG_HOST_URL" text defaultForexUrl))
    (withDefault fields "BINANCE_HOST_URL" text defaultTickerUrl))
    (withDefault fields "AMPLITUDE_SQUID_URL" text defaultIndexUrl))
    (withDefault fields "ENABLE_BRL_CROSS_RATE" truth false))
    (withDefault fields "HTTP_TIMEOUT_SECONDS" positiveDouble defaultTimeout)

/-! ## The environment -/

/-- The variables that are used without the blanks around their values, if they are not blank. -/
def strippedVariables : List String :=
  ["UPDATE_INTERVAL_SECONDS", "CG_HOST_URL", "PG_HOST_URL", "BINANCE_HOST_URL",
    "AMPLITUDE_SQUID_URL", "ENABLE_BRL_CROSS_RATE", "HTTP_TIMEOUT_SECONDS"]

/-- The field that a variable sets, if it is set and not blank. -/
def strippedField? (environment : List (String × String)) (name : String) :
    Option (String × Json) :=
  match valueAt? name environment with
  | none => none
  | some value =>
    if Text.isBlankText value then none else some (name, .ofText (Text.strip value))

/-- A key, or null if its variable is not set. -/
def keyField (environment : List (String × String)) (name : String) : String × Json :=
  (name, (valueAt? name environment).elim .null .ofText)

/-- The fields that the environment sets. -/
def fieldsOf (environment : List (String × String)) : Json.Fields :=
  Json.named (("SUPPORTED_CURRENCIES",
      .ofText ((valueAt? "SUPPORTED_CURRENCIES" environment).getD defaultCurrencies)) ::
    keyField environment "CG_API_KEY" :: keyField environment "PG_API_KEY" ::
    strippedVariables.filterMap (strippedField? environment))

/-- Reads settings from the environment. -/
def ofEnvironment (environment : List (String × String)) : Checked Settings :=
  check (fieldsOf environment)

end Settings

end PriceBoard
