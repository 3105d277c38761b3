import Mathlib.Algebra.Order.Field.Power
import Mathlib.Algebra.Order.Floor.Semifield
import Mathlib.Data.Rat.Floor
import PriceBoard.Decimal.Arithmetic
import PriceBoard.Proofs.Decimal.Digits

/-!
# The number that a numeral denotes

Numerals that look different may denote the same number.  `Numeral.value` is that number, a
rational, and this file says what the operations on numerals do to it:

* `isNegative_iff` and `isZero_iff` — the tests of the sign;
* `pow_adjusted_le_magnitude`, `magnitude_lt_pow` — the exponent of the first digit is the decimal
  logarithm, rounded down;
* `truncatedUnits_eq_floor` — dropping the places behind the point is the floor;
* `value_difference` — differences are exact before they are rounded;
* `fit_of_fits` — a numeral that fits is not rounded at all.
-/

namespace PriceBoard.Numeral

/-- The number that the numeral denotes, without its sign. -/
def magnitude (number : Numeral) : ℚ :=
  number.coefficient * 10 ^ number.exponent

/-- The number that the numeral denotes. -/
def value (number : Numeral) : ℚ :=
  number.signedCoefficient * 10 ^ number.exponent

theorem value_eq (number : Numeral) :
    number.value = if number.negative then -number.magnitude else number.magnitude := by
  unfold value magnitude signedCoefficient
  split <;> simp

theorem magnitude_nonneg (number : Numeral) : 0 ≤ number.magnitude := by
  unfold magnitude
  positivity

theorem magnitude_eq_zero_iff (number : Numeral) :
    number.magnitude = 0 ↔ number.coefficient = 0 := by
  have hpower : (10 : ℚ) ^ number.exponent ≠ 0 := zpow_ne_zero _ (by norm_num)
  simp [magnitude, hpower]

theorem magnitude_pos_iff (number : Numeral) :
    0 < number.magnitude ↔ number.coefficient ≠ 0 := by
  rw [(magnitude_nonneg number).lt_iff_ne', ne_eq, magnitude_eq_zero_iff]

theorem isZero_iff (number : Numeral) : number.isZero = true ↔ number.value = 0 := by
  rw [isZero, beq_iff_eq, ← magnitude_eq_zero_iff, value_eq]
  split <;> simp

theorem isNegative_iff (number : Numeral) : number.isNegative = true ↔ number.value < 0 := by
  have hpos := magnitude_pos_iff number
  have hnonneg := magnitude_nonneg number
  rw [value_eq]
  cases hsign : number.negative <;> simp [isNegative, hsign, hpos, hnonneg.not_gt]

theorem isPositive_iff (number : Numeral) : number.isPositive = true ↔ 0 < number.value := by
  have hpos := magnitude_pos_iff number
  have hnonneg := magnitude_nonneg number
  rw [value_eq]
  cases hsign : number.negative <;> simp [isPositive, hsign, hpos, hnonneg.not_gt]

/-- The sign of a number that is not below zero does not matter. -/
theorem magnitude_eq_value {number : Numeral} (hnonneg : 0 ≤ number.value) :
    number.magnitude = number.value := by
  have hmagnitude := magnitude_nonneg number
  rw [value_eq] at hnonneg ⊢
  split_ifs at hnonneg ⊢ <;> linarith

@[simp] theorem value_ofInt (number : ℤ) : (ofInt number).value = number := by
  unfold value signedCoefficient ofInt
  split <;> rename_i hsign <;> simp only [decide_eq_true_eq] at hsign
  · simp [abs_of_neg (Int.cast_lt_zero.mpr hsign : (number : ℚ) < 0)]
  · simp [abs_of_nonneg (Int.cast_nonneg (not_lt.mp hsign) : (0 : ℚ) ≤ number)]

/-! ## The exponent of the first digit -/

theorem magnitude_lt_pow (number : Numeral) : number.magnitude < 10 ^ (number.adjusted + 1) := by
  have hdigits : (number.coefficient : ℚ) < 10 ^ digitCount number.coefficient := by
    exact_mod_cast lt_pow_digitCount number.coefficient
  have hsplit : number.adjusted + 1 = (digitCount number.coefficient : ℤ) + number.exponent := by
    unfold adjusted
    omega
  rw [magnitude, hsplit, zpow_add₀ (by norm_num), zpow_natCast]
  exact mul_lt_mul_of_pos_right hdigits (by positivity)

theorem pow_adjusted_le_magnitude {number : Numeral} (hzero : number.coefficient ≠ 0) :
    10 ^ number.adjusted ≤ number.magnitude := by
  have hdigits : (10 : ℚ) ^ (digitCount number.coefficient - 1) ≤ number.coefficient := by
    exact_mod_cast pow_le_of_digitCount hzero
  have hcount := digitCount_pos number.coefficient
  have hsplit : number.adjusted = ((digitCount number.coefficient - 1 : ℕ) : ℤ) +
      number.exponent := by
    unfold adjusted
    omega
  rw [magnitude, hsplit, zpow_add₀ (by norm_num), zpow_natCast]
  exact mul_le_mul_of_nonneg_right hdigits (by positivity)

/-! ## Whole units -/

/-- Dropping the places behind the point, counted in units of `10 ^ (-places)`, is the floor. -/
theorem truncatedUnits_eq_floor (number : Numeral) (places : ℕ) :
    number.truncatedUnits places = ⌊number.magnitude * 10 ^ places⌋₊ := by
  have hshift : number.magnitude * 10 ^ places =
      number.coefficient * (10 : ℚ) ^ (number.exponent + places) := by
    rw [magnitude, mul_assoc, zpow_add₀ (by norm_num), zpow_natCast]
  unfold truncatedUnits
  rw [hshift]
  simp only [tenPower_eq]
  rcases le_or_gt 0 (number.exponent + places) with hge | hlt
  · obtain ⟨shift, hshift⟩ := Int.eq_ofNat_of_zero_le hge
    rw [if_pos hge, hshift, Int.toNat_natCast, zpow_natCast,
      ← Nat.floor_natCast (R := ℚ) (number.coefficient * 10 ^ shift)]
    push_cast
    rfl
  · obtain ⟨shift, hshift⟩ := Int.eq_ofNat_of_zero_le (neg_nonneg.mpr hlt.le)
    have hexponent : number.exponent + places = -(shift : ℤ) := by omega
    rw [if_neg hlt.not_ge, hexponent, Int.natAbs_neg, Int.natAbs_natCast, zpow_neg, zpow_natCast,
      ← div_eq_mul_inv, show ((10 : ℚ) ^ shift) = ((10 ^ shift : ℕ) : ℚ) by norm_num,
      Nat.floor_div_natCast, Nat.floor_natCast]
    split_ifs with hfew
    · -- fewer digits than places to drop
      refine (Nat.div_eq_of_lt ?_).symm
      exact (lt_pow_digitCount _).trans_le (Nat.pow_le_pow_right (by norm_num) hfew.le)
    · rfl

/-- The number without the places behind its point. -/
def towardZero (value : ℚ) : ℤ :=
  if 0 ≤ value then ⌊value⌋ else ⌈value⌉

/-- The whole part of a numeral, if it can be written down. -/
theorem truncate?_eq (number : Numeral) :
    number.truncate? =
      if number.isZero = false ∧ exponentCeiling ≤ number.exponent then none
      else some (towardZero number.value) := by
  have hunits : (number.truncatedUnits 0 : ℤ) = ⌊number.magnitude⌋ := by
    rw [truncatedUnits_eq_floor, pow_zero, mul_one]
    exact Int.natCast_floor_eq_floor (magnitude_nonneg number)
  unfold truncate?
  cases hzero : number.isZero with
  | true =>
      have hvalue : number.value = 0 := (isZero_iff number).mp hzero
      simp [hvalue, towardZero]
  | false =>
      simp only [Bool.false_eq_true, if_false, true_and]
      split
      · rfl
      · have hpos : 0 < number.magnitude := by
          rw [magnitude_pos_iff]
          simpa [isZero] using hzero
        rw [value_eq, hunits]
        -- a floor with a minus in front is the ceiling below zero
        cases number.negative with
        | true => simp [towardZero, hpos.not_ge, Int.ceil_neg]
        | false => simp [towardZero, hpos.le]

/-- The whole part is missing just if it has too many digits. -/
theorem truncate?_eq_none_iff (number : Numeral) :
    number.truncate? = none ↔ number.isZero = false ∧ exponentCeiling ≤ number.exponent := by
  simp [truncate?_eq]

@[simp] theorem towardZero_intCast (number : ℤ) : towardZero number = number := by
  simp [towardZero]

/-! ## Differences -/

private theorem signedCoefficient_scaled (number : Numeral) {exponent : ℤ}
    (hle : exponent ≤ number.exponent) :
    ((number.signedCoefficient * (tenPower (number.exponent - exponent).toNat : ℤ) : ℤ) : ℚ) *
      10 ^ exponent = number.value := by
  obtain ⟨shift, hshift⟩ := Int.eq_ofNat_of_zero_le (sub_nonneg.mpr hle)
  have hexponent : number.exponent = shift + exponent := by omega
  rw [value, hshift, Int.toNat_natCast, hexponent, zpow_add₀ (by norm_num), zpow_natCast]
  push_cast [tenPower_eq]
  ring

theorem signedCoefficient_difference (left right : Numeral) :
    (left.difference right).signedCoefficient = left.differenceUnits right := by
  unfold difference signedCoefficient
  rcases eq_or_ne (left.differenceUnits right) 0 with hzero | hnonzero
  · simp [hzero]
  · simp only [hnonzero, if_false, decide_eq_true_eq]
    split <;> omega

theorem value_difference (left right : Numeral) :
    (left.difference right).value = left.value - right.value := by
  have hleft := signedCoefficient_scaled left (min_le_left left.exponent right.exponent)
  have hright := signedCoefficient_scaled right (min_le_right left.exponent right.exponent)
  rw [← hleft, ← hright, ← sub_mul, ← Int.cast_sub, value, signedCoefficient_difference]
  rfl

/-! ## Shifts -/

@[simp] theorem shift_zero (number : Numeral) : number.shift 0 = number := by
  simp [shift]

theorem magnitude_shift (number : Numeral) (places : ℤ) :
    (number.shift places).magnitude = number.magnitude * 10 ^ places := by
  rw [magnitude, magnitude, shift, zpow_add₀ (by norm_num), mul_assoc]

/-! ## Fitting -/

theorem fits_iff {digits : ℕ} {number : Numeral} : number.fits digits = true ↔
    number.coefficient ≠ 0 ∧ digitCount number.coefficient ≤ digits ∧
      bottomExponent digits ≤ number.exponent ∧ number.adjusted ≤ topAdjusted := by
  simp [fits, isZero, and_assoc]

/-- A numeral that fits into the digits is kept as it is written. -/
theorem fit_of_fits {digits : ℕ} {number : Numeral} (hfits : number.fits digits = true) :
    number.fit digits = .ok number := by
  rw [fit, if_pos hfits]

/-- Zero is zero with any number of digits. -/
theorem fit_of_isZero {digits : ℕ} {number : Numeral} (hzero : number.coefficient = 0) :
    number.fit digits = .ok (zeroNear digits number.negative number.exponent) := by
  have hnot : number.fits digits = false := by simp [fits, isZero, hzero]
  simp [fit, hnot, roundRatio, hzero]

end PriceBoard.Numeral
