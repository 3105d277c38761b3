import PriceBoard.Provider.Figure
import PriceBoard.Provider.Request
import PriceBoard.Text.Upper

/-!
# Binance

The last price of a single market, by its symbol.
-/

namespace PriceBoard.Provider.Binance

def provider : String := "binance"

/-- The endpoint; it needs no key. -/
def endpoint (baseUrl : String) (timeout : Seconds) : Endpoint where
  provider := provider
  baseUrl := baseUrl
  timeout := timeout
  credentials := []

/-- Reads the price in an answer. -/
def priceIn (symbol : String) : Json → Except Fault Numeral
  | .object fields =>
      figure provider (.ofText (symbol ++ ".price")) (Json.memberOrNull "price" fields)
  | _ => .error (.broken provider "ticker response must be an object")

/-- The price of the market with the symbol. -/
def price (endpoint : Endpoint) (web : Web) (symbol : String) :
    Outcome Request Numeral := do
  let answer ← endpoint.send web "/api/v3/ticker/price"
    (.query [("symbol", Text.upper symbol)])
  Outcome.ofExcept (priceIn symbol answer)

end PriceBoard.Provider.Binance
