import PriceBoard.Provider.Figure
import PriceBoard.Provider.Request
import PriceBoard.Text.Split

/-!
# CoinGecko

Market prices of coins in US dollars, by the ids of the coins, all in one request.  A row of the
answer that is no object, or that has no usable price, spoils the whole answer; the other fields of
a row have defaults.
-/

namespace PriceBoard.Provider

/-- What CoinGecko reports about one coin. -/
structure MarketFigures where
  price : Numeral
  capitalization : Decimal
  volume : Decimal
  updated : Int

namespace Coingecko

def provider : String := "coingecko"

/-- Whether the address is one of the paid tier, which has a header of its own for the key. -/
def isPaidTier (baseUrl : String) : Bool :=
  Text.occursIn "pro-api".toList baseUrl.toList

/-- The endpoint for the key. -/
def endpoint (key baseUrl : String) (timeout : Seconds) : Endpoint where
  provider := provider
  baseUrl := baseUrl
  timeout := timeout
  credentials :=
    [(if isPaidTier baseUrl then "x-cg-pro-api-key" else "x-cg-demo-api-key", key)]

/-- The query for the coins with the ids. -/
def query (ids : List String) : List (String × String) :=
  [("ids", Text.commaJoin ids),
    ("vs_currencies", "usd"),
    ("precision", "full"),
    ("include_market_cap", "true"),
    ("include_24hr_vol", "true"),
    ("include_24hr_change", "false"),
    ("include_last_updated_at", "true")]

/-- Reads the row of one coin; `now` is the time of update if none is given. -/
def row (now : Int) (id : Spelling) : Json → Except Fault MarketFigures
  | .object fields => do
    let price ← figure provider (id ++ .ofText ".usd") (Json.memberOrNull "usd" fields)
    let updated ← wholeSeconds
      (figureOr (.finite (.ofInt now)) (Json.memberOrNull "last_updated_at" fields))
    return {
      price := price
      capitalization := figureOr (.finite .zero) (Json.memberOrNull "usd_market_cap" fields)
      volume := figureOr (.finite .zero) (Json.memberOrNull "usd_24h_vol" fields)
      updated := updated }
  | _ => .error (.protocol provider (.ofText "invalid price row for " ++ id))

/-- Reads the rows of an answer. -/
def rows (now : Int) : Json → Except Fault (List (Spelling × MarketFigures))
  | .object fields => fields.mapM fun (id, content) => (row now id content).map (id, ·)
  | _ => .error (.broken provider "simple/price response must be an object")

/-- What is reported about the coins with the ids.  Without ids nothing is asked. -/
def prices (endpoint : Endpoint) (web : Web) (now : Int) (ids : List String) :
    Outcome Request (List (Spelling × MarketFigures)) :=
  if ids.isEmpty then Outcome.done []
  else do
    let answer ← endpoint.send web "/simple/price" (.query (query ids))
    Outcome.ofExcept (rows now answer)

end Coingecko

end PriceBoard.Provider
