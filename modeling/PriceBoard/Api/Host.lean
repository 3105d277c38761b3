import PriceBoard.Decimal.Parser
import PriceBoard.DomainName
import PriceBoard.Text.Escaped
import PriceBoard.Text.Lower

/-!
# Hosts

An address may name the host that it leads to: by four numbers with points between them, by up to
eight hexadecimal numbers in brackets, or by a name.  `readHost` gives the form in which the host is
asked for, or tells what is wrong with it.

Names of ASCII characters are never wrong; others have to be domain names.
-/

namespace PriceBoard.Api

/-- What is wrong with a host. -/
inductive HostFault where
  /-- The four numbers of version 4 of the protocol. -/
  | badFourNumbers
  /-- The eight numbers of version 6 of the protocol. -/
  | badEightNumbers
  | badName
  deriving DecidableEq

/-! ## Four numbers -/

/-- Whether the word consists of four runs of digits with points between them. -/
def isFourRuns (word : List Char) : Bool :=
  let parts := Text.splitWord '.' word
  parts.length = 4 && parts.all fun part => !part.isEmpty && part.all Decimal.isDigit

/-- Whether the word is a number up to 255, without a zero in front. -/
def isOctet (word : List Char) : Bool :=
  !word.isEmpty && word.length ≤ 3 && word.all Decimal.isDigit &&
    (word = ['0'] || word.head? ≠ some '0') && Decimal.numberOf word ≤ 255

/-- Whether the word consists of four numbers with points between them. -/
def isFourNumbers (word : List Char) : Bool :=
  let parts := Text.splitWord '.' word
  parts.length = 4 && parts.all isOctet

/-! ## Eight numbers -/

/-- Whether the word is a number of up to four hexadecimal digits. -/
def isHextet (word : List Char) : Bool :=
  !word.isEmpty && word.length ≤ 4 && word.all fun letter => (Text.hexValue? letter).isSome

/-- The parts of the word between its colons.  The last two numbers may be written as four. -/
def colonParts? (word : List Char) : Option (List (List Char)) :=
  let parts := Text.splitWord ':' word
  let last := parts.getLast?.getD []
  if parts.length < 3 then none
  else if last.contains '.' then
    if isFourNumbers last then some (parts.dropLast ++ [['0'], ['0']]) else none
  else some parts

/-- The count of the numbers on one side of a gap, which may have none. -/
def sideCount? (parts : List (List Char)) : Option Nat :=
  if parts = [[]] then some 0
  else if parts.all isHextet then some parts.length
  else none

/-- Whether the parts are eight numbers.  One gap may stand for all the zeros in a row. -/
def areEightNumbers (parts : List (List Char)) : Bool :=
  match (parts.drop 1).dropLast.findIdx? List.isEmpty with
  | none => parts.length = 8 && parts.all isHextet
  | some index =>
    match sideCount? (parts.take (index + 1)), sideCount? (parts.drop (index + 2)) with
    | some before, some after => before + after < 8
    | _, _ => false

/-- Whether the word consists of eight numbers with colons between them; a zone may follow. -/
def isEightNumbers (word : List Char) : Bool :=
  let (number, zoneIsGood) :=
    match Text.cutWord '%' word with
    | none => (word, true)
    | some (number, zone) => (number, !zone.isEmpty && !zone.contains '%')
  zoneIsGood && (colonParts? number).any areEightNumbers

/-! ## All hosts -/

/-- Whether the host stands in brackets. -/
def isBracketed (host : List Char) : Bool :=
  host.head? = some '[' && 1 < host.length && host.getLast? = some ']'

/-- The characters besides letters and digits that are not escaped in hosts. -/
def plainHostMarks : List Char :=
  "-._~!$&'()*+,;=\"`\x7b\x7d%|\\".toList

/-- Whether the character is not escaped in hosts. -/
def isPlainInHost (letter : Char) : Bool :=
  letter.isAlphanum || plainHostMarks.contains letter

/-- The form of the host in which it is asked for: without brackets, and in lower case.  Whatever
has the shape of four numbers has to consist of them. -/
def readHost (host : List Char) : Except HostFault (List Char) :=
  if host.isEmpty then .ok []
  else if isFourRuns host then if isFourNumbers host then .ok host else .error .badFourNumbers
  else if isBracketed host then
    let numbers := (host.drop 1).dropLast
    if isEightNumbers numbers then .ok numbers else .error .badEightNumbers
  else if host.all Text.isAscii then .ok (Text.escape isPlainInHost (host.map Char.toLower))
  else (DomainName.encode (Text.lowerWord host)).mapError fun _ => .badName

end PriceBoard.Api
