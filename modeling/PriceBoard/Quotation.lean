import PriceBoard.Fault
import PriceBoard.Validation.Reader

/-!
# Quotations

A quotation is a price for an asset at a point of time, in seconds, as one of the sources reports
it.  Prices and supplies are finite decimals of any length; everything else about a reported number
is checked before a quotation is made of it.
-/

namespace PriceBoard

/-- A reported price. -/
structure Quotation where
  symbol : String
  name : String
  blockchain : Option String
  price : Numeral
  supply : Numeral
  timestamp : Int
  deriving DecidableEq

namespace Quotation

/-- The name of the record in messages. -/
def recordName : String :=
  "Quotation"

open Checked Reader in
/-- Reads a quotation from the fields of an object. -/
def check (fields : Json.Fields) : Checked Quotation :=
  apply (apply (apply (apply (apply (apply (.ok Quotation.mk)
    (required fields "symbol" text))
    (required fields "name" text))
    (withDefault fields "blockchain" (optional text) none))
    (required fields "price" decimal))
    (withDefault fields "supply" decimal .zero))
    (required fields "timestamp" integer)

/-- The quotation of an asset, if the reported numbers pass their checks. -/
def report (blockchain symbol : String) (price supply timestamp : Json) : Except Fault Quotation :=
  let fields := Json.named
    [("symbol", .ofText symbol), ("name", .ofText symbol), ("blockchain", .ofText blockchain),
      ("price", price), ("supply", supply), ("timestamp", timestamp)]
  (check fields).mapError (.invalid recordName)

end Quotation

end PriceBoard
