import PriceBoard.Api.Address

/-!
# Targets of calls

An address that names both a scheme and a host is absolute, and a call goes to it as it stands.  Any
other address is relative to the board: it keeps its path and its query, and the path starts at the
board.  The parameters of a call take the place of the query.

`Address.place?` is what a call to an address arrives at.  A path that leads nowhere because of the
slashes at its end does not answer, but sends the call on to the address without them.
-/

namespace PriceBoard.Api

open Text

/-! ## Queries -/

/-- Whether queries hold the character as it stands when they are written from parameters. -/
def isPlainInForm (letter : Char) : Bool :=
  letter.isAlphanum || letter = '_' || letter = '.' || letter = '-' || letter = '~'

/-- A name or a value of a parameter in a query. -/
def formWord (text : String) : List Char :=
  text.toList.flatMap fun letter => if letter = ' ' then ['+'] else escape isPlainInForm [letter]

/-- The query of parameters, if there are some. -/
def formQuery? (parameters : List (String × String)) : Option (List Char) :=
  if parameters.isEmpty then none
  else
    some (['&'].intercalate
      (parameters.map fun (name, value) => formWord name ++ '=' :: formWord value))

namespace Address

/-! ## Texts -/

/-- The host with its port. -/
def located (address : Address) : List Char :=
  let host := if address.host.contains ':' then '[' :: address.host ++ [']'] else address.host
  host ++ address.port.elim [] fun port => ':' :: (toString port).toList

/-- The host with the user and the port. -/
def authority (address : Address) : List Char :=
  (if address.user.isEmpty then [] else address.user ++ ['@']) ++ address.located

/-- The fault of the first part that is too long. -/
def longPart? (parts : List (AddressPart × List Char)) : Option AddressFault :=
  (parts.find? fun (_, word) => longestAddress < word.length).map fun (part, _) => .longPart part

/-- The address, if none of its parts is too long. -/
def checked (address : Address) : Except AddressFault Address :=
  let parts := [(.scheme, address.scheme), (.authority, address.authority), (.path, address.path),
    (.query, address.query.getD []), (.fragment, address.fragment.getD [])]
  match longPart? parts with
  | some fault => .error fault
  | none => .ok address

/-! ## From the board -/

/-- The address of the board. -/
def board : Address where
  scheme := "http".toList
  user := []
  host := "testserver".toList
  port := none
  path := ['/']
  query := none
  fragment := none

/-- Whether the address names both a scheme and a host. -/
def isAbsolute (address : Address) : Bool :=
  !address.scheme.isEmpty && !address.host.isEmpty

/-- The absolute address, seen from the board. -/
def resolved (address : Address) : Except AddressFault Address :=
  if address.isAbsolute then .ok address
  else do
    let path := '/' :: dropLeading isSlash address.path
    let merged ← { board with path := path, query := address.query }.checked
    return { merged with path := straighten path }

/-- The address with the query of the parameters in place of its own. -/
def withParameters (address : Address) (parameters : List (String × String)) :
    Except AddressFault Address :=
  { address with query := formQuery? parameters }.checked

/-! ## Sending -/

/-- The schemes that the board answers to. -/
def servedSchemes : List String :=
  ["http", "https", "ws", "wss"]

/-- Why the name of the host cannot be read, if it is spelled. -/
def nameFault? (address : Address) : Option AddressFault :=
  if DomainName.spelledStart.isPrefixOf address.host then
    match DomainName.decode address.host with
    | .error cause => some (.unreadableName cause)
    | .ok _ => none
  else none

/-- Why the host cannot be named in a call, if it has characters beyond ASCII. -/
def asciiFault? (address : Address) : Option AddressFault :=
  let front := address.located.takeWhile isAscii
  let rest := address.located.drop front.length
  rest.head?.map fun first =>
    .beyondAscii front.length first.toNat (rest.takeWhile fun letter => !isAscii letter).length

/-- Why nothing answers to the scheme, if nothing does. -/
def schemeFault? (address : Address) : Option AddressFault :=
  if servedSchemes.contains (String.ofList address.scheme) then none
  else some (.unknownScheme address.scheme)

/-- Why a call to the address does not arrive, if it does not. -/
def fault? (address : Address) : Option AddressFault :=
  (address.nameFault?.or address.asciiFault?).or address.schemeFault?

/-! ## Sending on -/

/-- The characters that are not escaped where a call is sent on. -/
def isPlainInSequel (letter : Char) : Bool :=
  isPlainInForm letter || ":/%#?=@[]!$&'()*+,;".contains letter

/-- The text of the address that a call is sent on to. -/
def sequelText (address : Address) (path : List Char) : List Char :=
  let query := address.query.getD []
  escape isPlainInSequel (address.scheme ++ "://".toList ++ address.located ++ path ++
    (if query.isEmpty then [] else '?' :: query))

/-- The address with the fragment of another one, if it has none. -/
def withFragmentOf (address other : Address) : Except AddressFault Address :=
  let fragment := unescape (other.fragment.getD [])
  if fragment.isEmpty || !(address.fragment.getD []).isEmpty then .ok address
  else
    match controlOf? fragment with
    | some (letter, position) => .error (.controlInFragment letter position)
    | none => .ok { address with fragment := some (escape isPlainInFragment fragment) }

/-- The address that a call to the first one is sent on to, at the path. -/
def sequel (address : Address) (path : List Char) : Except AddressFault Address := do
  let next ← (read (address.sequelText path)).mapError .badSequel
  next.withFragmentOf address

/-- What a call to the address arrives at, if there is something. -/
def place? (address : Address) : Except AddressFault (Option Place) :=
  match address.fault? with
  | some fault => .error fault
  | none =>
    let path := unescape (unescape address.path)
    match Place.ofPath? path, Place.behindSlashes? path with
    | some place, _ => .ok (some place)
    | none, none => .ok none
    | none, some (place, path) => do
      let next ← address.sequel path
      match next.fault? with
      | some fault => .error fault
      | none => .ok (some place)

end Address

end PriceBoard.Api
