import PriceBoard.Provider.Figure
import PriceBoard.Provider.Request

/-!
# The Amplitude index

The price of the native token of Amplitude, from the index of that chain.  The index is asked with a
posted query and answers with the price, or with a list of errors.
-/

namespace PriceBoard.Provider.Squid

def provider : String := "amplitude-squid"

/-- The endpoint; it needs no key. -/
def endpoint (url : String) (timeout : Seconds) : Endpoint where
  provider := provider
  baseUrl := url
  timeout := timeout
  credentials := []

/-- The query for the price. -/
def query : String :=
  "query AmpePriceView \x7b bundleById(id: \"1\") \x7b ethPrice \x7d \x7d"

/-- The document that is posted. -/
def question : Json :=
  .object (Json.named [("query", .ofText query), ("variables", .object [])])

/-- Reads the price in an answer. -/
def priceIn : Json → Except Fault Numeral
  | .object fields =>
    let errors := Json.memberOrNull "errors" fields
    if !errors.isVoid then
      .error (.protocol provider (Spelling.ofText "graphql errors: " ++ errors.spelled))
    else
      match (Json.memberOrNull "data" fields).field? "bundleById" with
      | some (.object bundle) => figure provider "ethPrice" (Json.memberOrNull "ethPrice" bundle)
      | _ => .error (.broken provider "no price found for AMPE")
  | _ => .error (.broken provider "response must be an object")

/-- The price of the token. -/
def price (endpoint : Endpoint) (web : Web) : Outcome Request Numeral := do
  let answer ← endpoint.send web "" (.posted question)
  Outcome.ofExcept (priceIn answer)

end PriceBoard.Provider.Squid
