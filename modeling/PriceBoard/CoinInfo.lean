import PriceBoard.Asset
import PriceBoard.FixedPoint
import PriceBoard.Quotation

/-!
# Coin records

What the board publishes about an asset is a coin record: a fixed-point price and the time of the
last update.  Supplies are not published yet and read as zero, and a quotation without a blockchain
is published under `FIAT`.
-/

namespace PriceBoard

/-- A published record. -/
structure CoinInfo where
  symbol : String
  name : String
  blockchain : String
  supply : Int
  lastUpdate : Int
  price : Int
  deriving DecidableEq

namespace CoinInfo

/-- The blockchain of quotations that name none. -/
def defaultBlockchain : String :=
  "FIAT"

/-- The blockchain under which a quotation is published. -/
def blockchainOf (quotation : Quotation) : String :=
  match quotation.blockchain with
  | none => defaultBlockchain
  | some blockchain => if blockchain.isEmpty then defaultBlockchain else blockchain

/-- The record that is published for the quotation. -/
def ofQuotation (quotation : Quotation) : Except FixedPoint.Fault CoinInfo :=
  (FixedPoint.ofNumeral quotation.price).map fun price =>
    { symbol := quotation.symbol
      name := quotation.name
      blockchain := blockchainOf quotation
      supply := 0
      lastUpdate := max quotation.timestamp 0
      price := price }

/-- The asset of the record. -/
def asset (record : CoinInfo) : Asset :=
  ⟨record.blockchain, record.symbol⟩

/-! ## Fields -/

/-- The record as it is sent out. -/
def fields (record : CoinInfo) : Json.Fields :=
  Json.named
    [("symbol", .ofText record.symbol),
      ("name", .ofText record.name),
      ("blockchain", .ofText record.blockchain),
      ("supply", .integer record.supply),
      ("lastUpdateTimestamp", .integer record.lastUpdate),
      ("price", .integer record.price)]

/-! ## Reading -/

/-- The name of the record in messages. -/
def recordName : String :=
  "CoinInfo"

/-- The time of the last update has two names; the first one given counts. -/
def lastUpdateName (fields : Json.Fields) : String :=
  if (Json.member? "lastUpdateTimestamp" fields).isSome then "lastUpdateTimestamp"
  else if (Json.member? "last_update_timestamp" fields).isSome then "last_update_timestamp"
  else "lastUpdateTimestamp"

open Checked Reader in
/-- Reads a record from the fields of an object. -/
def check (fields : Json.Fields) : Checked CoinInfo :=
  apply (apply (apply (apply (apply (apply (.ok CoinInfo.mk)
    (required fields "symbol" text))
    (required fields "name" text))
    (required fields "blockchain" text))
    (withDefault fields "supply" integer 0))
    (required fields (lastUpdateName fields) integer))
    (required fields "price" integer)

end CoinInfo

end PriceBoard
