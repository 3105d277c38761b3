import PriceBoard.CoinInfo

/-!
# The board

The board shows the records of the last cycle that published.  Publishing replaces all of them at
once, and a reader sees one state of the board or the next, never a mixture.  Of two records of one
asset the later one counts, in the place of the earlier one.
-/

namespace PriceBoard

/-- The published records by their assets, and when they were published. -/
structure Board where
  rows : List (Asset × CoinInfo)
  updatedAt : Option Int

namespace Board

/-- The board before anything is published. -/
def empty : Board :=
  ⟨[], none⟩

/-- The rows of the records. -/
def rowsOf (records : List CoinInfo) : List (Asset × CoinInfo) :=
  records.foldl (fun rows record => setEntry record.asset record rows) []

/-- The board with the records, published at the given time. -/
def publish (records : List CoinInfo) (now : Int) : Board :=
  ⟨rowsOf records, some now⟩

/-- The record of the asset. -/
def get? (board : Board) (asset : Asset) : Option CoinInfo :=
  valueAt? asset board.rows

/-- The records of the assets that have one. -/
def lookup (board : Board) (assets : List Asset) : List CoinInfo :=
  assets.filterMap board.get?

/-- All records. -/
def toList (board : Board) : List CoinInfo :=
  board.rows.map Prod.snd

/-- How many records there are. -/
def size (board : Board) : Nat :=
  board.rows.length

/-! ## Reading records -/

/-- Reads records; the first one with an issue spoils them all. -/
def checkRecords (records : List Json.Fields) : Except Fault (List CoinInfo) :=
  records.mapM fun fields => (CoinInfo.check fields).mapError (.invalid CoinInfo.recordName)

end Board

end PriceBoard
