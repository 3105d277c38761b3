import PriceBoard.Api.Host
import PriceBoard.Fault

/-!
# Faults of addresses

Why a call to an address fails before it arrives: the address breaks the rules for addresses, it
cannot be sent, or nothing answers to it.
-/

namespace PriceBoard.Api

open Text

/-- A part of an address that must not be too long. -/
inductive AddressPart where
  | scheme
  /-- The host with the user and the port. -/
  | authority
  | path
  | query
  | fragment
  deriving DecidableEq

/-- The name of a part. -/
def AddressPart.name : AddressPart → String
  | scheme => "scheme"
  | authority => "authority"
  | path => "path"
  | query => "query"
  | fragment => "fragment"

/-- Why an address leads nowhere. -/
inductive AddressFault where
  | tooLong
  | longPart (part : AddressPart)
  /-- No address may hold control characters. -/
  | control (letter : Char) (position : Nat)
  /-- An escaped control character comes to light in a fragment. -/
  | controlInFragment (letter : Char) (position : Nat)
  | badHost (cause : HostFault) (host : List Char)
  | badPort (written : List Char)
  /-- A path alone starts with two slashes. -/
  | doubledSlash
  /-- A path alone starts with a colon. -/
  | leadingColon
  /-- The spelled name of the host cannot be read. -/
  | unreadableName (cause : DomainName.NameFault)
  /-- A host has characters beyond ASCII, so many in a row from the position on. -/
  | beyondAscii (position first count : Nat)
  /-- Nothing answers to the scheme. -/
  | unknownScheme (scheme : List Char)
  /-- The call is sent on to an address that cannot be read. -/
  | badSequel (cause : AddressFault)

/-! ## Kinds -/

/-- The kind of what is wrong with a label. -/
def labelKind : DomainName.LabelFault → GeneralKind
  | .badLetter _ _ => .badLetter
  | .badNeighbours _ _ => .badNeighbours
  | .unknownDirection _ | .badFirstDirection | .badDirection _ _ | .mixedDigits
  | .badLastDirection => .badDirection
  | .empty | .uncomposed | .doubledHyphen | .outerHyphen | .leadingMark | .badJoiner _ _ =>
    .badName

/-- The kind of what is wrong with a domain name. -/
def nameKind : DomainName.NameFault → GeneralKind
  | .badLabel cause _ => labelKind cause
  | _ => .badName

/-- The kind of a fault that has no other cause than the address. -/
def AddressFault.kind : AddressFault → GeneralKind
  | unreadableName cause => nameKind cause
  | beyondAscii _ _ _ => .badEncoding
  | badSequel _ => .badProtocol
  | _ => .badAddress

/-! ## Messages -/

/-- The host in words. -/
def HostFault.kindName : HostFault → String
  | badFourNumbers => "IPv4 address"
  | badEightNumbers => "IPv6 address"
  | badName => "IDNA hostname"

/-- The word, quoted. -/
def quoteWord (word : List Char) : String :=
  quote (String.ofList word)

/-- A control character and where it stands. -/
def controlText (place : String) (letter : Char) (position : Nat) : String :=
  "Invalid non-printable ASCII character in " ++ place ++ ", " ++ quoteWord [letter] ++
    " at position " ++ toString position ++ "."

/-- What is wrong with the address, in words. -/
def AddressFault.message : AddressFault → String
  | tooLong => "URL too long"
  | longPart part => "URL component '" ++ part.name ++ "' too long"
  | control letter position => controlText "URL" letter position
  | controlInFragment letter position =>
    controlText ("URL " ++ AddressPart.fragment.name ++ " component") letter position
  | badHost cause host => "Invalid " ++ cause.kindName ++ ": " ++ quoteWord host
  | badPort written => "Invalid port: " ++ quoteWord written
  | doubledSlash => "Relative URLs cannot have a path starting with '//'"
  | leadingColon => "Relative URLs cannot have a path starting with ':'"
  | unreadableName cause => cause.message
  | beyondAscii position first count =>
    "'ascii' codec can't encode " ++ rowText position first count ++ ": ordinal not in range(128)"
  | unknownScheme scheme => quoteWord scheme
  | badSequel cause => "Invalid URL in location header: " ++ cause.message ++ "."

/-- The fault of a call to the address. -/
def AddressFault.fault : AddressFault → Fault
  | unknownScheme scheme => .missingKey (.ofText (String.ofList scheme))
  | cause => .general cause.kind (.ofText cause.message)

end PriceBoard.Api
