/-!
# Powers of the two bases

Decimals count in powers of ten and doubles in powers of two.
-/

namespace PriceBoard

/-- A one with the given number of zeros behind it. -/
def tenPower (exponent : Nat) : Nat :=
  Nat.pow 10 exponent

/-- Two, multiplied with itself the given number of times. -/
def twoPower (exponent : Nat) : Nat :=
  Nat.pow 2 exponent

end PriceBoard
