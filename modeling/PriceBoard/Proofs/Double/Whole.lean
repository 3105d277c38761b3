import Mathlib.Tactic.Linarith
import Mathlib.Tactic.Positivity
import PriceBoard.Seconds

/-!
# Whole numbers with a double

The doubles end just below `2 ^ 1024`.  The largest of them is `2 ^ 1024 - 2 ^ 971`, and a whole
number has a nearest double up to half a step above it: all numbers below `2 ^ 1024 - 2 ^ 970` have
one, and no others (`nearestBits_lt_infinityBits_iff`).  The middle itself is out, because of its
neighbours the one with an even significand would be `2 ^ 1024`.
-/

namespace PriceBoard

/-! ## Rounding to whole numbers -/

theorem le_roundHalfEven (numerator denominator : Nat) :
    numerator / denominator ≤ roundHalfEven numerator denominator := by
  unfold roundHalfEven
  dsimp only
  split_ifs <;> omega

theorem roundHalfEven_le (numerator denominator : Nat) :
    roundHalfEven numerator denominator ≤ numerator / denominator + 1 := by
  unfold roundHalfEven
  dsimp only
  split_ifs <;> omega

/-- A ratio is rounded to less than an even number just if it is below the middle before it. -/
theorem roundHalfEven_lt_two_mul_iff {numerator denominator bound : Nat}
    (hdenominator : 0 < denominator) :
    roundHalfEven numerator denominator < 2 * bound ↔
      2 * numerator + denominator < 4 * bound * denominator := by
  have hdivision : denominator * (numerator / denominator) + numerator % denominator =
      numerator := Nat.div_add_mod numerator denominator
  have hrest : numerator % denominator < denominator := Nat.mod_lt _ hdenominator
  unfold roundHalfEven
  dsimp only
  generalize numerator / denominator = quotient at hdivision ⊢
  generalize numerator % denominator = rest at hdivision hrest ⊢
  -- the bound as a multiple of the denominator, from above or from below
  have hbelow : ∀ units, units + 1 ≤ 2 * bound →
      2 * (denominator * units) + 2 * denominator ≤ 4 * bound * denominator := by
    intro units hunits
    nlinarith [Nat.mul_le_mul_left (2 * denominator) hunits]
  have habove : ∀ units, 2 * bound ≤ units →
      4 * bound * denominator ≤ 2 * (denominator * units) := by
    intro units hunits
    nlinarith [Nat.mul_le_mul_left (2 * denominator) hunits]
  split_ifs with hdown hup
  · constructor
    · intro hlt
      have := hbelow quotient hlt
      omega
    · intro hlt
      by_contra hge
      have := habove quotient (by omega)
      omega
  · constructor
    · intro hlt
      have := hbelow (quotient + 1) hlt
      rw [Nat.mul_add] at this
      omega
    · intro hlt
      by_contra hge
      have := habove (quotient + 1) (by omega)
      rw [Nat.mul_add] at this
      omega
  · -- from the middle the odd neighbour below the bound is left for the bound itself
    have hmiddle : 2 * rest = denominator := by omega
    constructor
    · intro hlt
      have := hbelow (quotient + 1) (by omega)
      rw [Nat.mul_add] at this
      omega
    · intro hlt
      by_contra hge
      have := habove (quotient + 1) (by omega)
      rw [Nat.mul_add] at this
      omega

/-! ## The double of a whole number -/

namespace Double

theorem ratioLog_one {number : Nat} (hnumber : number ≠ 0) :
    ratioLog number 1 = (number.log2 : Int) := by
  have hpower : 1 * twoPower (number.log2 : Int).toNat ≤
      number * twoPower (-(number.log2 : Int)).toNat := by
    have hzero : (-(number.log2 : Int)).toNat = 0 := by omega
    rw [hzero, Int.toNat_natCast, Nat.one_mul]
    exact (Nat.log2_self_le hnumber).trans (Nat.le_mul_of_pos_right _ (Nat.pow_pos Nat.two_pos))
  have hone : (Nat.log2 1 : Int) = 0 := rfl
  simp only [ratioLog, hone, Int.sub_zero, if_pos hpower]

/-- The significand of the double nearest to a whole number. -/
def wholeSignificand (number : Nat) : Nat :=
  roundHalfEven (number * 2 ^ (52 - number.log2)) (2 ^ (number.log2 - 52))

/-- The bits of the double nearest to a whole number: its exponent, and behind it its significand,
which may carry. -/
theorem nearestBits_one {number : Nat} (hnumber : number ≠ 0) :
    nearestBits number 1 =
      min infinityBits ((number.log2 + 1022) * 2 ^ 52 + wholeSignificand number) := by
  have hexponent : max ((number.log2 : Int) - 52) (-1074) = (number.log2 : Int) - 52 := by omega
  have hdown : (-((number.log2 : Int) - 52)).toNat = 52 - number.log2 := by omega
  have hup : ((number.log2 : Int) - 52).toNat = number.log2 - 52 := by omega
  have hbiased : ((number.log2 : Int) - 52 + 1074).toNat = number.log2 + 1022 := by omega
  simp only [nearestBits, if_neg hnumber, ratioLog_one hnumber, hexponent, hdown, hup, hbiased,
    Nat.one_mul, wholeSignificand]
  rfl

theorem wholeSignificand_le (number : Nat) : wholeSignificand number ≤ 2 ^ 53 := by
  have hlog : number < 2 ^ (number.log2 + 1) := Nat.lt_log2_self
  have hquotient : number * 2 ^ (52 - number.log2) / 2 ^ (number.log2 - 52) < 2 ^ 53 := by
    rw [Nat.div_lt_iff_lt_mul (Nat.pow_pos Nat.two_pos)]
    calc number * 2 ^ (52 - number.log2)
        < 2 ^ (number.log2 + 1) * 2 ^ (52 - number.log2) :=
          Nat.mul_lt_mul_of_pos_right hlog (Nat.pow_pos Nat.two_pos)
      _ = 2 ^ 53 * 2 ^ (number.log2 - 52) := by
          rw [← Nat.pow_add, ← Nat.pow_add]
          congr 1
          omega
  exact (roundHalfEven_le _ _).trans hquotient

theorem le_wholeSignificand {number : Nat} (hlog : 52 ≤ number.log2) :
    2 ^ 52 ≤ wholeSignificand number := by
  have hnumber : number ≠ 0 := by
    rintro rfl
    simp at hlog
  have hzero : 52 - number.log2 = 0 := by omega
  refine le_trans ?_ (le_roundHalfEven _ _)
  rw [hzero, Nat.pow_zero, Nat.mul_one, Nat.le_div_iff_mul_le (Nat.pow_pos Nat.two_pos),
    ← Nat.pow_add, Nat.add_sub_cancel' hlog]
  exact Nat.log2_self_le hnumber

/-- A whole number has a double just if it is below the middle between the largest double and the
power of two after it. -/
theorem nearestBits_lt_infinityBits_iff (number : Nat) :
    nearestBits number 1 < infinityBits ↔ number < 2 ^ 1024 - 2 ^ 970 := by
  -- all large powers of two are counted in half steps between the largest doubles
  obtain ⟨unit, hunit⟩ : ∃ unit, unit = 2 ^ 970 := ⟨_, rfl⟩
  have hpositive : 0 < unit := by
    rw [hunit]
    positivity
  have hstep : 2 ^ 971 = 2 * unit := by rw [hunit, ← Nat.pow_succ']
  have hhalf : 2 ^ 1023 = 2 ^ 53 * unit := by rw [hunit, ← Nat.pow_add]
  have htop : 2 ^ 1024 = 2 ^ 54 * unit := by rw [hunit, ← Nat.pow_add]
  have hinfinity : infinityBits = 2047 * 2 ^ 52 := rfl
  rw [htop, ← hunit]
  rcases Nat.eq_zero_or_pos number with rfl | hpos
  · have hzero : nearestBits 0 1 < infinityBits := by decide
    exact iff_of_true hzero (by omega)
  have hnumber : number ≠ 0 := by omega
  have hlog : number < 2 ^ (number.log2 + 1) := Nat.lt_log2_self
  have hlower : 2 ^ number.log2 ≤ number := Nat.log2_self_le hnumber
  rw [nearestBits_one hnumber, hinfinity]
  rcases lt_trichotomy number.log2 1023 with hsmall | hedge | hlarge
  · -- the exponent leaves room even if the significand carries
    have hsignificand := wholeSignificand_le number
    have hexponent : number.log2 + 1 ≤ 1023 := by omega
    have hpower : 2 ^ (number.log2 + 1) ≤ 2 ^ 1023 := pow_le_pow_right₀ one_le_two hexponent
    rw [hhalf] at hpower
    exact iff_of_true (by omega) (by omega)
  · -- the last exponent: all depends on whether the significand carries
    have hsignificand : wholeSignificand number < 2 * 2 ^ 52 ↔
        2 * (number * 2 ^ (52 - 1023)) + 2 ^ (1023 - 52) < 4 * 2 ^ 52 * 2 ^ (1023 - 52) := by
      rw [wholeSignificand, hedge]
      exact roundHalfEven_lt_two_mul_iff (pow_pos two_pos _)
    rw [show 52 - 1023 = 0 from rfl, show 1023 - 52 = 971 from rfl, hstep, Nat.pow_zero]
      at hsignificand
    rw [hedge]
    omega
  · have hsignificand : 2 ^ 52 ≤ wholeSignificand number := le_wholeSignificand (by omega)
    have hexponent : 1024 ≤ number.log2 := by omega
    have hpower : 2 ^ 1024 ≤ 2 ^ number.log2 := pow_le_pow_right₀ one_le_two hexponent
    rw [htop] at hpower
    exact iff_of_false (by omega) (by omega)

end Double

/-! ## Spans of whole seconds -/

namespace Seconds

/-- The fault of a span that no double stands for. -/
def overflow : Fault :=
  .general .outOfRange "int too large to convert to float"

/-- A whole number of seconds has a double, or it is beyond the doubles. -/
theorem toDouble_whole (count : Nat) :
    (count < 2 ^ 1024 - 2 ^ 970 ∧ ∃ length, (whole count).toDouble = .ok length) ∨
      (2 ^ 1024 - 2 ^ 970 ≤ count ∧ (whole count).toDouble = .error overflow) := by
  have hbound := Double.nearestBits_lt_infinityBits_iff count
  simp only [toDouble, doubleOf, Double.ofInt?, Int.natAbs_natCast]
  by_cases hfits : Double.nearestBits count 1 < Double.infinityBits
  · simp only [if_pos hfits]
    exact .inl ⟨hbound.mp hfits, _, rfl⟩
  · simp only [if_neg hfits]
    exact .inr ⟨Nat.le_of_not_lt fun hlt => hfits (hbound.mpr hlt), rfl⟩

end Seconds

end PriceBoard
