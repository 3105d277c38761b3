import PriceBoard.Decimal.Parser
import PriceBoard.Fault
import PriceBoard.Json.Printer

/-!
# Figures in answers

Providers write numbers as numbers or as texts.  There are two ways to read one.  `figure` is
strict: what is missing or is no finite number is a fault of the provider, named after the field.
`figureOr` is tolerant: in all these cases another number takes its place.
-/

namespace PriceBoard.Provider

/-- The decimal that the content spells. -/
def spelled (content : Json) : Except Signal Decimal :=
  match content with
  | .decimal value => .ok value
  | other => Decimal.ofText other.display

/-- Reads a number that must be there. -/
def figure (provider : String) (field : Spelling) (content : Json) : Except Fault Numeral :=
  let missing := Fault.protocol provider (.ofText "missing value for " ++ field)
  let invalid := Fault.protocol provider
    (.ofText "invalid numeric value for " ++ field ++ .ofText (": " ++ content.quoted))
  match content with
  | .null => .error missing
  | .bool _ => .error missing
  | .string ⟨[]⟩ => .error missing
  | _ =>
    match spelled content with
    | .ok (.finite number) => .ok number
    | .ok _ => .error invalid
    | .error _ => .error invalid

/-- Reads a number; `absent` takes its place if there is none. -/
def figureOr (absent : Decimal) (content : Json) : Decimal :=
  match content with
  | .null => absent
  | .string ⟨[]⟩ => absent
  | _ =>
    match spelled content with
    | .error _ => absent
    | .ok value => if value.isFinite then value else absent

/-- The whole part of a decimal, toward zero. -/
def wholeSeconds : Decimal → Except Fault Int
  | .finite number => number.truncate?.elim (.error (.general .memory "")) .ok
  | .infinity _ => .error (.general .outOfRange "cannot convert Infinity to integer")
  | .nan _ _ _ => .error (.general .badValue "cannot convert NaN to integer")

end PriceBoard.Provider
