import PriceBoard.Api.Address.Fault
import PriceBoard.Api.Path
import PriceBoard.Double.Parser

/-!
# Addresses

A call is sent to an address.  An address has a scheme, a host with a port, and a path, and may do
without all but the path; a query and a fragment may follow.  `Address.read` takes an address apart.

All parts are kept in the form in which they are sent: the scheme and the host in lower case, the
path without detours, and whatever a part must not hold escaped.
-/

namespace PriceBoard.Api

open Text

/-- An address, in parts. -/
structure Address where
  scheme : List Char
  /-- Who calls, in front of the host. -/
  user : List Char
  host : List Char
  port : Option Int
  path : List Char
  query : Option (List Char)
  fragment : Option (List Char)

/-! ## Characters -/

/-- The most characters of an address, and of each part of it. -/
def longestAddress : Nat :=
  65536

/-- Whether the letter is a control character. -/
def isControl (letter : Char) : Bool :=
  letter.toNat < 0x20 || letter.toNat = 0x7F

/-- The first control character of the word, and its position. -/
def controlOf? (word : List Char) : Option (Char × Nat) :=
  word.zipIdx.find? fun (letter, _) => isControl letter

/-- Whether the character is a visible one of ASCII and none of the marks. -/
def isVisibleBut (marks : String) (letter : Char) : Bool :=
  0x20 < letter.toNat && letter.toNat < 0x7F && !marks.contains letter

/-- Whether fragments may hold the character. -/
def isPlainInFragment : Char → Bool :=
  isVisibleBut "\"<>`"

/-- Whether queries may hold the character. -/
def isPlainInQuery : Char → Bool :=
  isVisibleBut "\"#<>"

/-- Whether paths may hold the character. -/
def isPlainInPath : Char → Bool :=
  isVisibleBut "\"#<>?`\x7b\x7d"

/-- Whether users may hold the character. -/
def isPlainInUser : Char → Bool :=
  isVisibleBut "\"#<>?`\x7b\x7d/;=@[\\]^|"

/-! ## Cutting -/

/-- Whether schemes may hold the letter. -/
def isSchemeLetter (letter : Char) : Bool :=
  letter.isAlphanum || letter = '+' || letter = '.' || letter = '-'

/-- The scheme in front of the first colon, and what follows.  It starts with a letter and may be
missing, with or without the colon. -/
def cutScheme (word : List Char) : List Char × List Char :=
  let scheme := word.takeWhile isSchemeLetter
  match word.drop scheme.length with
  | ':' :: rest => if scheme.head?.all Char.isAlpha then (scheme, rest) else ([], word)
  | _ => ([], word)

/-- The host with all that belongs to it, which follows two slashes, and what comes after it. -/
def cutAuthority (word : List Char) : List Char × List Char :=
  match word with
  | '/' :: '/' :: rest =>
    let authority := rest.takeWhile fun letter => letter ≠ '/' && letter ≠ '?' && letter ≠ '#'
    (authority, rest.drop authority.length)
  | _ => ([], word)

/-- The user in front of the last at sign, if there is one, and what follows it. -/
def cutUser (authority : List Char) : List Char × List Char :=
  let rest := (authority.reverse.takeWhile (· ≠ '@')).reverse
  (authority.take (authority.length - rest.length - 1), rest)

/-- The host and the port.  A host in brackets goes up to the last bracket, and any other one up to
the first colon. -/
def cutHost (word : List Char) : List Char × List Char :=
  let bracketed := dropTrailing (· ≠ ']') word
  let host := if isBracketed bracketed then bracketed else word.takeWhile (· ≠ ':')
  match word.drop host.length with
  | ':' :: port => (host, port)
  | port => (host, port)

/-- The query that follows a path, and the fragment that ends the address. -/
def cutQuery (word : List Char) : Option (List Char) × Option (List Char) :=
  let (front, fragment) :=
    match cutWord '#' word with
    | some (front, fragment) => (front, some fragment)
    | none => (word, none)
  match front with
  | '?' :: query => (some query, fragment)
  | _ => (none, fragment)

/-! ## Ports -/

/-- The most digits of a port. -/
def longestPort : Nat :=
  4300

/-- The number of a port.  It is read like any number in running text: with a sign, with blanks
around it and with underscores between its digits, which may be those of any script. -/
def portNumber? (word : List Char) : Option Int := do
  let letters ← (trimWord isSpace word).mapM Decimal.asciiForm?
  let (negative, digits) := Decimal.cutSign (← Double.dropUnderscores? false letters)
  if digits.isEmpty || !digits.all Decimal.isDigit || longestPort < digits.length then none
  else some (if negative then -Decimal.numberOf digits else Decimal.numberOf digits)

/-- The port that a scheme stands for. -/
def usualPort? (scheme : List Char) : Option Int :=
  [("ftp", 21), ("http", 80), ("https", 443), ("ws", 80), ("wss", 443)].lookup
    (String.ofList scheme)

/-- The port, unless it is missing or the usual one. -/
def readPort (scheme word : List Char) : Except AddressFault (Option Int) :=
  if word.isEmpty then .ok none
  else
    match portNumber? word with
    | none => .error (.badPort word)
    | some port => .ok (if usualPort? scheme = some port then none else some port)

/-! ## Reading -/

namespace Address

/-- The path of an address that has neither a scheme nor a host. -/
def checkBarePath (path : List Char) : Except AddressFault (List Char) :=
  match path with
  | '/' :: '/' :: _ => .error .doubledSlash
  | ':' :: _ => .error .leadingColon
  | _ => .ok path

/-- Takes an address apart. -/
def parts (word : List Char) : Except AddressFault Address := do
  let (scheme, rest) := cutScheme word
  let scheme := scheme.map Char.toLower
  let (authority, rest) := cutAuthority rest
  let (user, located) := cutUser authority
  let (writtenHost, writtenPort) := cutHost located
  let host ← (readHost writtenHost).mapError (AddressFault.badHost · writtenHost)
  let port ← readPort scheme writtenPort
  let path := rest.takeWhile fun letter => letter ≠ '?' && letter ≠ '#'
  let (query, fragment) := cutQuery (rest.drop path.length)
  let isBare := scheme.isEmpty && user.isEmpty && host.isEmpty && port.isNone
  let path ← if isBare then checkBarePath path else .ok (straighten path)
  return {
    scheme := scheme
    user := escape isPlainInUser user
    host := host
    port := port
    path := escape isPlainInPath path
    query := query.map (escape isPlainInQuery)
    fragment := fragment.map (escape isPlainInFragment) }

/-- Reads an address. -/
def read (word : List Char) : Except AddressFault Address :=
  if longestAddress < word.length then .error .tooLong
  else
    match controlOf? word with
    | some (letter, position) => .error (.control letter position)
    | none => parts word

end Address

end PriceBoard.Api
