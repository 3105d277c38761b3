import PriceBoard.Api.Address.Target
import PriceBoard.Api.Outline
import PriceBoard.Asset.Reader
import PriceBoard.Board
import PriceBoard.Json.Compact
import PriceBoard.Json.Decoder
import PriceBoard.Text.Encoding
import PriceBoard.Updater.Status

/-!
# Calls

The board is read by calls over the web.  `/v1/currencies` gives the records of some assets, named
in a parameter or in a posted document; assets without a record are left out.
`/v1/metrics/updater` gives figures about the board and about what updates it.

An answer is sent as a document, and the pages about the calls are none.  A call fails if its
address leads nowhere or if its answer cannot be sent: figures have to be finite, and so do the
numbers in what a refusal quotes, the texts of which must not hold halves of pairs that stand alone.
Whole numbers must not be too long to be written.
-/

namespace PriceBoard.Api

variable {δ : Type}

/-! ## Calls and answers -/

/-- A call. -/
inductive Call where
  | get (address : String) (parameters : List (String × String))
  | post (address body : String)

/-- Figures about the board, and about the updater and what it quotes with, if there is one. -/
structure Metrics (δ : Type) where
  size : Nat
  updatedAt : Option Int
  updater : Option (Status × δ)

/-- The answer to a call. -/
inductive Answer (δ : Type) where
  | records (found : List CoinInfo)
  | metrics (figures : Metrics δ)
  /-- The document about the calls. -/
  | outline
  /-- One of the pages about the calls. -/
  | page
  /-- The call is refused. -/
  | refused (status : Nat) (detail : String)
  /-- The data of the call do not pass their checks. -/
  | unusable (issues : List Issue)

/-- The status of an answer. -/
def Answer.status : Answer δ → Nat
  | records _ => 200
  | metrics _ => 200
  | outline => 200
  | page => 200
  | refused status _ => status
  | unusable _ => 422

/-! ## Reading calls -/

/-- The value of a parameter; the last one counts. -/
def parameter? (name : String) (parameters : List (String × String)) : Option String :=
  (parameters.reverse.find? fun parameter => parameter.1 = name).map Prod.snd

/-- Reads the names of the assets of a posted document. -/
def checkAssets : Json → Checked (List Asset.Spelled)
  | .array items => Checked.all (Asset.checkNames .noRecordInRequest) items
  | value => Checked.here value (.error .noList)

/-- The answer to a body that cannot be read. -/
def unreadable : Answer δ :=
  .refused 400 "There was an error parsing the body"

/-- Why the assets of a body cannot be read. -/
def decodeAnswer : Json.DecodeFault → Answer δ
  | .malformed _ position =>
    .unusable [⟨[.field "body", .item position], .brokenDocument, .object []⟩]
  | _ => unreadable

/-! ## Answering -/

/-- Answers a call for the records of named assets. -/
def getRecords (board : Board) (parameters : List (String × String)) : Answer δ :=
  match parameter? assetsParameter parameters with
  | none => .unusable [⟨[.field "query", .field assetsParameter], .missing, .null⟩]
  | some written =>
    match Asset.parseItems written with
    | .error _ => .refused 400 "INVALID_ASSET_SPECIFIER"
    | .ok assets => .records (board.lookup assets)

/-- Answers a call for the records of the assets in a posted document. -/
def postedRecords (board : Board) (document : Json) : Answer δ :=
  match (checkAssets document).under (.field "body") with
  | .error issues => .unusable issues
  | .ok names => .records (board.lookup (names.filterMap Asset.Spelled.asset?))

/-- Answers a call for the records of posted assets; the posted document is nested to the depth at
most. -/
def postRecords (deepest : Nat) (board : Board) (body : String) : Answer δ :=
  if body.isEmpty then .unusable [⟨[.field "body"], .missing, .null⟩]
  else
    match Text.decode? body with
    | none => unreadable
    | some letters =>
      match Json.decode deepest letters with
      | .error fault => decodeAnswer fault
      | .ok document => postedRecords board document

/-- The answer where there is no place. -/
def notFound : Answer δ :=
  .refused 404 "Not Found"

/-- The answer to a call for a place, whether or not it can be sent. -/
def respond (deepest : Nat) (board : Board) (updater : Option (Status × δ)) (place : Option Place) :
    Call → Answer δ
  | .get _ parameters =>
    match place with
    | some .records => getRecords board parameters
    | some .metrics => .metrics ⟨board.size, board.updatedAt, updater⟩
    | some .manual => .page
    | some .outline => .outline
    | none => notFound
  | .post _ body =>
    match place with
    | some .records => postRecords deepest board body
    | some _ => .refused 405 "Method Not Allowed"
    | none => notFound

/-- The address that is called. -/
def Call.address : Call → Except AddressFault Address
  | get written parameters => do
    let address ← Address.read written.toList
    (← address.resolved).withParameters parameters
  | post written _ => do
    let address ← Address.read written.toList
    address.resolved

/-! ## Sending -/

/-- The fault of a double that cannot be sent. -/
def infiniteFault : Fault :=
  .general .badValue "Out of range float values are not JSON compliant"

/-- A step of a path in a document. -/
def stepDocument : Step → Json
  | .field name => .ofText name
  | .item index => .integer index

/-- An issue in a document. -/
def issueDocument (issue : Issue) : Json :=
  .object (Json.named [("type", .ofText issue.problem.code),
    ("loc", .array (issue.path.map stepDocument)),
    ("msg", .ofText issue.problem.message),
    ("input", issue.input)])

/-- The document about the issues. -/
def issuesDocument (issues : List Issue) : Json :=
  .object (Json.named [("detail", .array (issues.map issueDocument))])

/-- Why the document cannot be sent, if it cannot. -/
def documentFault? (document : Json) : Option Fault :=
  match document.compact? with
  | none => some infiniteFault
  | some letters => Fault.encoding? ⟨letters⟩

/-- The most digits of a whole number that can be written. -/
def longestNumber : Nat :=
  4300

/-- Whether the number has at most so many digits. -/
def isWritable (number : Int) : Bool :=
  number.natAbs < tenPower longestNumber

/-- The fault of a whole number that is too long to be written. -/
def longNumberFault : Fault :=
  .general .badValue (.ofText (s!"Exceeds the limit ({longestNumber} digits) for integer string " ++
    "conversion; use sys.set_int_max_str_digits() to increase the limit"))

/-- Whether all numbers of the record can be written. -/
def isWritableRecord (record : CoinInfo) : Bool :=
  [record.price, record.supply, record.lastUpdate].all isWritable

/-- How the pages about the calls start. -/
def pageStart : String :=
  "\n    <"

/-- The fault of a page that is read as a document. -/
def pageFault? : Option Fault :=
  match Json.decode 0 (Spelling.ofText pageStart).letters with
  | .error (.malformed problem position) =>
    some (.general .badDocument (.ofText (Json.placedMessage pageStart problem position)))
  | _ => none

/-- The measured durations among the figures. -/
def Metrics.durations (figures : Metrics δ) : List Float :=
  match figures.updater with
  | none => []
  | some (status, _) => status.lastCycle.toList ++ status.lastSleep.toList

/-- Why the answer cannot be sent, if it cannot. -/
def Answer.fault? : Answer δ → Option Fault
  | metrics figures => if figures.durations.all Double.isFinite then none else some infiniteFault
  | unusable issues => documentFault? (issuesDocument issues)
  | records found => if found.all isWritableRecord then none else some longNumberFault
  | page => pageFault?
  | outline | refused _ _ => none

/-- Answers a call, if both the call and the answer can be sent.  Posted documents may be nested to
the depth at most, which depends on how much room is left where they are read. -/
def handle (deepest : Nat) (board : Board) (updater : Option (Status × δ)) (call : Call) :
    Except Fault (Answer δ) :=
  match call.address.bind Address.place? with
  | .error cause => .error cause.fault
  | .ok place =>
    let answer := respond deepest board updater place call
    match answer.fault? with
    | some fault => .error fault
    | none => .ok answer

end PriceBoard.Api
