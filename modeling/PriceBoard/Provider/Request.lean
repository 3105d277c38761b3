import PriceBoard.Json.Decoder
import PriceBoard.Outcome
import PriceBoard.Seconds

/-!
# Requests

A provider is asked over the web: with a query, without one, or with a document to be posted.  Its
answer has a status and a body, and the body of a good answer is a document.

`Endpoint.send` is the only way to ask.  Whatever comes back is either a document or a fault that
names the provider: a transport fault if no answer came, a protocol fault if the status is one of
failure or the body is no document.  Faults of other kinds, of the line itself or of numbers and
nestings beyond all limits, are handed on as they are.
-/

namespace PriceBoard.Provider

/-! ## What is sent and received -/

/-- What a request carries. -/
inductive Payload where
  | query (parameters : List (String × String))
  | nothing
  | posted (document : Json)

/-- A request as it is sent. -/
structure Request where
  url : String
  headers : List (String × String)
  timeout : Seconds
  payload : Payload

/-- An answer as it is received.  How deep arrays and objects may be nested in its body depends on
how much room is left where it is read. -/
structure Reply where
  status : Int
  body : String
  deepest : Nat

/-- What answers the requests. -/
abbrev Web : Type :=
  Request → Except Fault Reply

/-! ## Endpoints -/

/-- A provider's place on the web, and what every request to it carries. -/
structure Endpoint where
  provider : String
  baseUrl : String
  timeout : Seconds
  credentials : List (String × String)

/-- Seconds that a request may take by default. -/
def defaultTimeout : Seconds :=
  .fraction 5.0

namespace Endpoint

/-- Whether the character separates the parts of an address. -/
def isSlash (letter : Char) : Bool :=
  letter = '/'

/-- The address of the endpoint without slashes at its end. -/
def root (endpoint : Endpoint) : String :=
  String.ofList (Text.dropTrailing isSlash endpoint.baseUrl.toList)

/-- The address of a path; the empty path is the endpoint itself. -/
def address (endpoint : Endpoint) (path : String) : String :=
  if path.isEmpty then endpoint.root
  else endpoint.root ++ "/" ++ String.ofList (Text.dropLeading isSlash path.toList)

/-- A request to the endpoint. -/
def request (endpoint : Endpoint) (path : String) (payload : Payload) : Request where
  url := endpoint.address path
  headers := ("accept", "application/json") :: endpoint.credentials
  timeout := endpoint.timeout
  payload := payload

/-! ## Answers -/

/-- A fault of the line, as a fault of the provider. -/
def lineFault (endpoint : Endpoint) : Fault → Fault
  | .connection message => .transport endpoint.provider (.ofText "request failed: " ++ message)
  | .timeout message => .transport endpoint.provider (.ofText "request failed: " ++ message)
  | .system message => .transport endpoint.provider (.ofText "request failed: " ++ message)
  | fault => fault

/-- A broken agreement with the provider. -/
def broken (endpoint : Endpoint) (reason : String) : Fault :=
  .broken endpoint.provider reason

/-- How much of the body of a failure is shown. -/
def shownLength : Nat :=
  200

/-- Whether the status is one of failure. -/
def isFailure (status : Int) : Bool :=
  400 ≤ status && status < 600

/-- Why the body is no document. -/
def decodeFault (endpoint : Endpoint) (body : String) : Json.DecodeFault → Fault
  | .malformed problem position =>
    endpoint.broken ("could not decode response: " ++ Json.placedMessage body problem position)
  | .longInteger digits =>
    endpoint.broken ("could not decode response: " ++ Json.longIntegerMessage digits)
  | .tooDeep inObject => .general .recursion (.ofText (Json.tooDeepMessage inObject))
  | .number cause => .decimal cause

/-- The document in an answer. -/
def document (endpoint : Endpoint) (reply : Reply) : Except Fault Json :=
  if isFailure reply.status then
    let shown := (Text.trimWord Text.isBlank reply.body.toList).take shownLength
    .error (endpoint.broken
      ("status=" ++ toString reply.status ++ " body=" ++ String.ofList shown))
  else (Json.decodeExact reply.deepest reply.body).mapError (endpoint.decodeFault reply.body)

/-- The document that answers a request. -/
def answer (endpoint : Endpoint) : Except Fault Reply → Except Fault Json
  | .error fault => .error (endpoint.lineFault fault)
  | .ok reply => endpoint.document reply

/-- Asks the endpoint. -/
def send (endpoint : Endpoint) (web : Web) (path : String) (payload : Payload) :
    Outcome Request Json :=
  let request := endpoint.request path payload
  Outcome.ask request (endpoint.answer (web request))

end Endpoint

end PriceBoard.Provider
