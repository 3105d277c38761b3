import PriceBoard.FixedPoint
import PriceBoard.Text.Quoted
import PriceBoard.Validation.Issue

/-!
# Faults

Everything that can keep an operation from its result, by cause.  A fault has a kind and a message,
and it appears in the log either by its message alone or quoted, with both.
-/

namespace PriceBoard

/-- The kinds of faults that carry nothing but a message. -/
inductive GeneralKind where
  | runtime
  | badValue
  | outOfRange
  | badType
  | badAttribute
  | badEncoding
  | badAddress
  /-- The name of a host, or a label of it. -/
  | badName
  | badLetter
  | badNeighbours
  | badDirection
  | badProtocol
  | badDocument
  | recursion
  | memory
  /-- A kind that nothing here tells apart from others, by its name. -/
  | other (name : String)
  deriving DecidableEq

/-- Why an operation has no result. -/
inductive Fault where
  /-- A provider could not be reached. -/
  | connection (message : Spelling)
  /-- A provider did not answer in time. -/
  | timeout (message : Spelling)
  /-- The system refused an operation. -/
  | system (message : Spelling)
  /-- A request to the provider failed. -/
  | transport (provider : String) (reason : Spelling)
  /-- A provider's answer does not have the agreed form; the reason may quote it. -/
  | protocol (provider : String) (reason : Spelling)
  /-- Nothing is in charge of an asset. -/
  | unsupportedAsset (message : Spelling)
  /-- A price has no fixed-point form, or none was found. -/
  | conversion (cause : FixedPoint.Fault)
  /-- A price of zero was to be inverted. -/
  | reciprocalOfZero
  /-- An operation on decimals has no result. -/
  | decimal (cause : Signal)
  /-- Something was looked up under a name that is not there. -/
  | missingKey (name : Spelling)
  /-- A record does not pass its checks. -/
  | invalid (record : String) (issues : List Issue)
  /-- A text cannot be sent, since halves of pairs stand alone in it. -/
  | encoding (text : Spelling) (halves : Halves)
  /-- Any other fault. -/
  | general (kind : GeneralKind) (message : Spelling)

/-! ## Kinds -/

/-- The name of a general kind. -/
def GeneralKind.name : GeneralKind → String
  | runtime => "RuntimeError"
  | badValue => "ValueError"
  | outOfRange => "OverflowError"
  | badType => "TypeError"
  | badAttribute => "AttributeError"
  | badEncoding => "UnicodeEncodeError"
  | badAddress => "InvalidURL"
  | badName => "IDNAError"
  | badLetter => "InvalidCodepoint"
  | badNeighbours => "InvalidCodepointContext"
  | badDirection => "IDNABidiError"
  | badProtocol => "RemoteProtocolError"
  | badDocument => "JSONDecodeError"
  | recursion => "RecursionError"
  | memory => "MemoryError"
  | other name => name

namespace Fault

/-- The fault of a provider, for a reason in plain text. -/
def broken (provider reason : String) : Fault :=
  .protocol provider (.ofText reason)

/-- Why the text cannot be sent, if it cannot. -/
def encoding? (text : Spelling) : Option Fault :=
  text.halves?.map (.encoding text)

/-- The name of the fault's kind. -/
def kindName : Fault → String
  | connection _ => "ConnectionError"
  | timeout _ => "Timeout"
  | system _ => "OSError"
  | transport _ _ => "ProviderTransportError"
  | protocol _ _ => "ProviderProtocolError"
  | unsupportedAsset _ => "UnsupportedAssetError"
  | conversion (.signal cause) => cause.kindName
  | conversion _ => "ConversionOverflowError"
  | reciprocalOfZero => "ReciprocalUndefinedError"
  | decimal cause => cause.kindName
  | missingKey _ => "KeyError"
  | invalid _ _ => "ValidationError"
  | encoding _ _ => GeneralKind.badEncoding.name
  | general kind _ => kind.name

/-- The provider that the fault is about. -/
def provider? : Fault → Option String
  | transport provider _ => some provider
  | protocol provider _ => some provider
  | _ => none

/-! ## Messages -/

/-- All issues of a record. -/
def issuesText (record : String) (issues : List Issue) : String :=
  let count := issues.length
  s!"{count} validation error" ++ (if count = 1 then "" else "s") ++ " for " ++ record ++
    String.join (issues.map fun issue => "\n" ++ issue.text)

/-- Why no halves can be sent. -/
def halvesReason : String :=
  "surrogates not allowed"

/-- The code in which texts are sent. -/
def codeName : String :=
  "utf-8"

/-- That halves cannot be sent. -/
def halvesText (halves : Halves) : String :=
  "'" ++ codeName ++ "' codec can't encode " ++
    Text.rowText halves.position halves.first halves.count ++ ": " ++ halvesReason

/-- The fault in words. -/
def message : Fault → Spelling
  | connection message => message
  | timeout message => message
  | system message => message
  | transport provider reason => .ofText (provider ++ ": ") ++ reason
  | protocol provider reason => .ofText (provider ++ ": ") ++ reason
  | unsupportedAsset message => message
  | conversion cause => .ofText cause.message
  | reciprocalOfZero => .ofText "reciprocal of zero is undefined"
  | decimal cause => .ofText cause.message
  | missingKey name => .ofText name.quoted
  | invalid record issues => .ofText (issuesText record issues)
  | encoding _ halves => .ofText (halvesText halves)
  | general _ message => message

/-- What is shown of the text and its halves. -/
def encodingParts (text : Spelling) (halves : Halves) : List String :=
  [Text.quote codeName, text.quoted, toString halves.position,
    toString (halves.position + halves.count), Text.quote halvesReason]

/-- The fault with its kind and its message. -/
def quoted (fault : Fault) : String :=
  match fault with
  | invalid record issues => issuesText record issues
  | missingKey name => fault.kindName ++ "(" ++ name.quoted ++ ")"
  | decimal cause => fault.kindName ++ "(" ++ cause.message ++ ")"
  | conversion (.signal cause) => fault.kindName ++ "(" ++ cause.message ++ ")"
  | encoding text halves =>
      fault.kindName ++ "(" ++ ", ".intercalate (encodingParts text halves) ++ ")"
  | general .memory _ => fault.kindName ++ "()"
  | _ => fault.kindName ++ "(" ++ fault.message.quoted ++ ")"

end Fault

end PriceBoard
