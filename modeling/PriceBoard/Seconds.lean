import PriceBoard.Double.Parser
import PriceBoard.Double.Shortest
import PriceBoard.Fault
import PriceBoard.Json.Value

/-!
# Seconds

A span of time is configured as a whole number of seconds or as a fraction, and it is shown as it
was configured.  It is measured in doubles; a whole number beyond their range cannot be waited for.
-/

namespace PriceBoard

/-- A configured span of time. -/
inductive Seconds where
  | whole (count : Int)
  | fraction (length : Float)

namespace Seconds

/-- The span as it was configured. -/
def text : Seconds → String
  | whole count => toString count
  | fraction length => Double.text length

/-- The whole number as a double. -/
def doubleOf (count : Int) : Except Fault Float :=
  match Double.ofInt? count with
  | some length => .ok length
  | none => .error (.general .outOfRange "int too large to convert to float")

/-- The span as a double. -/
def toDouble : Seconds → Except Fault Float
  | whole count => doubleOf count
  | fraction length => .ok length

/-- The span that a value stands for, as a double. -/
def read : Json → Except Fault Float
  | .integer count => doubleOf count
  | .double length => .ok length
  | .bool value => doubleOf (if value then 1 else 0)
  | .decimal (.finite number) => .ok (Double.ofNumeral number)
  | .decimal (.infinity negative) => .ok (Double.infinity negative)
  | .decimal (.nan _ _ _) => .ok Double.nan
  | .string written =>
    match Double.ofText? written.text with
    | some length => .ok length
    | none =>
      .error (.general .badValue (.ofText ("could not convert string to float: " ++ written.quoted)))
  | other =>
    .error (.general .badType
      (.ofText ("float() argument must be a string or a real number, not '" ++
        other.kindName ++ "'")))

/-- The time that is left of an interval; none once it is over, or if one of the two is no
number. -/
def remaining (interval elapsed : Float) : Float :=
  let rest := interval - elapsed
  if Double.isAboveZero rest then rest else Double.ofMagnitude false 0

end Seconds

end PriceBoard
