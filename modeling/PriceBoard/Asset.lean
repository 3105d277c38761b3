import PriceBoard.Distinct
import PriceBoard.Text.Blank
import PriceBoard.Text.Quoted
import PriceBoard.Text.Split
import PriceBoard.Text.Upper

/-!
# Assets

What has a price is an asset: a symbol on a blockchain, written `Polkadot:DOT`, or a pair of
currencies on the blockchain `FIAT`, written `FIAT:EUR-USD`.  The first colon separates the two
parts; the symbol may hold further ones.  Blanks around a part do not belong to it, and neither
part may be blank.

Several assets are written as one text with commas.  Blank items are skipped.
-/

namespace PriceBoard

/-- A symbol on a blockchain. -/
structure Asset where
  blockchain : String
  symbol : String
  deriving DecidableEq

namespace Asset

/-- The asset in its written form. -/
def text (asset : Asset) : String :=
  asset.blockchain ++ ":" ++ asset.symbol

/-- Whether the asset has the names, regardless of case. -/
def isNamed (asset : Asset) (blockchain symbol : String) : Bool :=
  Text.upper asset.blockchain == Text.upper blockchain &&
    Text.upper asset.symbol == Text.upper symbol

/-! ## Reading -/

/-- A text that denotes no asset. -/
structure Malformed where
  written : String
  deriving DecidableEq

/-- What is wrong, in words. -/
def Malformed.message (fault : Malformed) : String :=
  "invalid asset specifier: " ++ Text.quote fault.written

/-- The asset that the text denotes. -/
def parse (written : String) : Except Malformed Asset :=
  match Text.cutWord ':' (Text.trimWord Text.isBlank written.toList) with
  | none => .error ⟨written⟩
  | some (before, after) =>
    let blockchain := Text.trimWord Text.isBlank before
    let symbol := Text.trimWord Text.isBlank after
    if blockchain.isEmpty || symbol.isEmpty then .error ⟨written⟩
    else .ok ⟨String.ofList blockchain, String.ofList symbol⟩

/-- The assets that the items of the text denote, one by one. -/
def parseItems (written : String) : Except Malformed (List Asset) :=
  ((Text.split ',' written).filter fun item => !Text.isBlankText item).mapM parse

/-- The assets of the text, each once. -/
def parseUniverse (written : String) : Except Malformed (List Asset) :=
  (parseItems written).map distinct

end Asset

end PriceBoard
