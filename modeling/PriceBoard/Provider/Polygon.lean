import PriceBoard.Provider.Figure
import PriceBoard.Provider.Request
import PriceBoard.Text.Split
import PriceBoard.Text.Upper

/-!
# Polygon

Foreign exchange rates by tickers such as `C:EURUSD`, all in one request.  Each row of the answer
stands for itself: a row without a ticker is skipped, and a number that cannot be used is zero.
-/

namespace PriceBoard.Provider

/-- What Polygon reports about the rate of a currency: the current bid, the close of the day before,
and the time of the last update in whole seconds. -/
structure ForexFigures where
  bid : Decimal
  previousClose : Decimal
  updated : Option Int

namespace Polygon

def provider : String := "polygon"

/-- The endpoint for the key. -/
def endpoint (key baseUrl : String) (timeout : Seconds) : Endpoint where
  provider := provider
  baseUrl := baseUrl
  timeout := timeout
  credentials := [("authorization", "Bearer " ++ key)]

/-- The ticker of a pair of currencies. -/
def ticker (source target : String) : String :=
  "C:" ++ Text.upper source ++ Text.upper target

/-! ## Rows -/

/-- How many nanoseconds make a second. -/
def nanoseconds : Nat :=
  1000000000

/-- The time of an update, given in nanoseconds, if it is after the beginning of time. -/
def updated : Json → Except Fault (Option Int)
  | .integer count => .ok (if 0 < count then some (count / nanoseconds) else none)
  | .bool value => .ok (if value then some 0 else none)
  | .double count =>
    match Double.parts count with
    | .finite negative significand exponent =>
      .ok (if negative || significand == 0 then none
        else some (Double.wholeMagnitude significand exponent / nanoseconds : Nat))
    | .infinity negative =>
      if negative then .ok none
      else .error (.general .badValue "cannot convert float NaN to integer")
    | .nan => .ok none
  | _ => .ok none

/-- A figure inside a part of a row; zero if there is none. -/
def partFigure (fields : Json.Fields) (part name : String) : Decimal :=
  let inner := (Json.memberOrNull part fields).field? name
  figureOr (.finite .zero) (inner.getD .null)

/-- Reads a row with a ticker; nothing for any other row. -/
def row : Json → Except Fault (Option (Spelling × ForexFigures))
  | .object fields =>
    let name := Json.memberOrNull "ticker" fields
    if name.isVoid then .ok none
    else do
      let time ← updated (Json.memberOrNull "updated" fields)
      return some (name.spelled, {
        bid := partFigure fields "lastQuote" "b"
        previousClose := partFigure fields "prevDay" "c"
        updated := time })
  | _ => .ok none

/-- Adds the rows to a table; of two rows with one ticker the later one counts. -/
def addRows : List (Spelling × ForexFigures) → List Json →
    Except Fault (List (Spelling × ForexFigures))
  | table, [] => .ok table
  | table, content :: others => do
    match ← row content with
    | none => addRows table others
    | some (name, figures) => addRows (setEntry name figures table) others

/-! ## Answers -/

/-- The status words of a good answer. -/
def goodStatus : List Spelling :=
  ["OK", "DELAYED"]

/-- The status word of an answer, in upper case; an answer without one is good. -/
def statusWord (fields : Json.Fields) : Spelling :=
  ((Json.member? "status" fields).elim (.ofText "OK") Json.spelled).upper

/-- Reads the rows of an answer. -/
def rows : Json → Except Fault (List (Spelling × ForexFigures))
  | .object fields =>
    if !goodStatus.contains (statusWord fields) then
      .error (.protocol provider (.ofText "snapshot status=" ++ statusWord fields))
    else
      let tickers := Json.memberOrNull "tickers" fields
      if tickers.isVoid then .ok []
      else
        match tickers with
        | .array items => addRows [] items
        | _ => .error (.broken provider "snapshot tickers must be a list")
  | _ => .error (.broken provider "snapshot response must be an object")

/-- What is reported about the tickers.  Without tickers nothing is asked. -/
def snapshot (endpoint : Endpoint) (web : Web) (tickers : List String) :
    Outcome Request (List (Spelling × ForexFigures)) :=
  if tickers.isEmpty then Outcome.done []
  else do
    let answer ← endpoint.send web "/v2/snapshot/locale/global/markets/forex/tickers"
      (.query [("tickers", Text.commaJoin tickers)])
    Outcome.ofExcept (rows answer)

end Polygon

end PriceBoard.Provider
