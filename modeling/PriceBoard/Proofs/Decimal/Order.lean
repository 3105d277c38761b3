import PriceBoard.Proofs.Decimal.Rounding

/-!
# Rounding keeps the order

A larger number is not rounded to a smaller one (`rounded_mono`), and what is rounded is not rounded
again (`rounded_rounded`).

There are gaps between the numbers that rounding leaves alone: such a number is a whole number of
units of its last digit, and the next one is at least a unit further (`pow_lastExponent_le_sub`).
Moving its point loses nothing but digits beyond the end of the working range
(`abs_rounded_mul_pow_sub_le`).
-/

namespace PriceBoard

/-! ## Whole numbers -/

theorem floor_le_nearestWhole (exact : ℚ) : ⌊exact⌋₊ ≤ nearestWhole exact := by
  unfold nearestWhole
  split_ifs <;> omega

theorem nearestWhole_le_floor_add_one (exact : ℚ) : nearestWhole exact ≤ ⌊exact⌋₊ + 1 := by
  unfold nearestWhole
  split_ifs <;> omega

theorem nearestWhole_mono {smaller larger : ℚ} (hle : smaller ≤ larger) :
    nearestWhole smaller ≤ nearestWhole larger := by
  rcases (Nat.floor_mono hle).lt_or_eq with hlt | hsame
  · have hsmaller := nearestWhole_le_floor_add_one smaller
    have hlarger := floor_le_nearestWhole larger
    omega
  · -- with one floor, it is the place behind the point that decides
    unfold nearestWhole
    rw [hsame]
    split_ifs
    all_goals first | omega | linarith

namespace Numeral

variable {digits : ℕ} {exact smaller larger : ℚ} {exponent : ℤ}

/-! ## The last digit -/

theorem log_mono (hpos : 0 < smaller) (hle : smaller ≤ larger) :
    Int.log 10 smaller ≤ Int.log 10 larger :=
  Int.log_mono_right hpos hle

theorem lastExponent_mono (hpos : 0 < smaller) (hle : smaller ≤ larger) :
    lastExponent digits smaller ≤ lastExponent digits larger := by
  have hlog := log_mono hpos hle
  unfold lastExponent
  omega

/-- The last digit of a number that is at most ten times as large is at most one place further to
the left. -/
theorem lastExponent_le_add_one (hpos : 0 < larger) (hle : larger ≤ 10 * smaller) :
    lastExponent digits larger ≤ lastExponent digits smaller + 1 := by
  have hsmaller : 0 < smaller := by linarith
  have hlog : Int.log 10 larger ≤ Int.log 10 smaller + 1 := by
    rw [← log_mul_pow hsmaller 1, zpow_one, mul_comm]
    exact log_mono hpos hle
  unfold lastExponent
  omega

theorem bottomExponent_le_lastExponent (digits : ℕ) (exact : ℚ) :
    bottomExponent digits ≤ lastExponent digits exact :=
  le_max_right _ _

/-! ## Order -/

/-- Rounding keeps the order of numbers that are not below zero. -/
theorem rounded_mono (hdigits : 0 < digits) (hnonneg : 0 ≤ smaller) (hle : smaller ≤ larger) :
    rounded digits smaller ≤ rounded digits larger := by
  rcases hnonneg.eq_or_lt with rfl | hpos
  · rw [rounded_zero]
    exact rounded_nonneg digits larger
  have hlast : lastExponent digits smaller ≤ lastExponent digits larger :=
    lastExponent_mono hpos hle
  rcases hlast.eq_or_lt with hsame | hcoarser
  · -- on one grid the order is that of whole numbers
    unfold rounded
    rw [hsame]
    have hunit : (0 : ℚ) < 10 ^ lastExponent digits larger := by positivity
    have hunits := nearestWhole_mono (div_le_div_of_nonneg_right hle hunit.le)
    exact mul_le_mul_of_nonneg_right (by exact_mod_cast hunits) hunit.le
  · -- otherwise a power of ten stands between the two
    have hlog : Int.log 10 smaller + 1 ≤ Int.log 10 larger ∧
        bottomExponent digits ≤ Int.log 10 larger := by
      unfold lastExponent at hcoarser
      omega
    have hbelow : smaller ≤ 10 ^ Int.log 10 larger :=
      (lt_pow_log smaller).le.trans (zpow_le_zpow_right₀ (by norm_num) hlog.1)
    have habove : (10 : ℚ) ^ Int.log 10 larger ≤ larger := pow_log_le (hpos.trans_le hle)
    exact (rounded_le_pow hdigits hnonneg hlog.2 hbelow).trans
      (pow_le_rounded hdigits hlog.2 habove)

/-! ## Rounded numbers -/

theorem lastExponent_le_of_lt (hpos : 0 < exact) (hbottom : bottomExponent digits ≤ exponent)
    (hlt : exact < 10 ^ (digits + exponent)) : lastExponent digits exact ≤ exponent := by
  have hlog : ¬ digits + exponent ≤ Int.log 10 exact := by
    rw [le_log_iff hpos, not_le]
    exact hlt
  unfold lastExponent
  omega

/-- What is rounded is not rounded again. -/
theorem rounded_rounded (hdigits : 0 < digits) (exact : ℚ) :
    rounded digits (rounded digits exact) = rounded digits exact := by
  have hunit : (0 : ℚ) < 10 ^ lastExponent digits exact := by positivity
  have hbottom := bottomExponent_le_lastExponent digits exact
  have hle : rounded digits exact ≤ 10 ^ (digits + lastExponent digits exact) := by
    rw [← natPow_mul_pow]
    have hunits := nearestWhole_le (div_pow_lastExponent_le digits exact)
    exact mul_le_mul_of_nonneg_right (by exact_mod_cast hunits) hunit.le
  rcases (rounded_nonneg digits exact).eq_or_lt with hzero | hpos
  · rw [← hzero, rounded_zero]
  rcases hle.lt_or_eq with hlt | heq
  · exact rounded_eq_self (lastExponent_le_of_lt hpos hbottom hlt) rfl
  · -- all nines were rounded up to a power of ten
    have hone : rounded digits exact = (1 : ℕ) * 10 ^ (digits + lastExponent digits exact) := by
      rw [heq, Nat.cast_one, one_mul]
    refine rounded_eq_self (lastExponent_le hpos (by omega) ?_) hone
    rw [heq]
    exact zpow_le_zpow_right₀ (by norm_num) (by omega)

/-- A number that is not rounded is a whole number of units of its last digit. -/
theorem exists_units_of_rounded (hrounded : rounded digits exact = exact)
    (hexponent : exponent ≤ lastExponent digits exact) :
    ∃ units : ℕ, exact = units * 10 ^ exponent := by
  obtain ⟨units, hunits⟩ :=
    exists_multiple (nearestWhole (exact / 10 ^ lastExponent digits exact)) hexponent
  exact ⟨units, by rw [← hunits, ← rounded, hrounded]⟩

/-- Numbers that are not rounded are at least a unit of the last digit apart. -/
theorem pow_lastExponent_le_sub (hsmaller : rounded digits smaller = smaller)
    (hlarger : rounded digits larger = larger) (hpos : 0 < smaller) (hlt : smaller < larger) :
    (10 : ℚ) ^ lastExponent digits smaller ≤ larger - smaller := by
  obtain ⟨few, hfew⟩ := exists_units_of_rounded hsmaller le_rfl
  obtain ⟨many, hmany⟩ := exists_units_of_rounded hlarger (lastExponent_mono hpos hlt.le)
  have hunit : (0 : ℚ) < 10 ^ lastExponent digits smaller := by positivity
  generalize (10 : ℚ) ^ lastExponent digits smaller = unit at hfew hmany hunit ⊢
  have hunits : few + 1 ≤ many := by
    rw [hfew, hmany] at hlt
    exact_mod_cast lt_of_mul_lt_mul_right hlt hunit.le
  have hunits : ((few + 1 : ℕ) : ℚ) * unit ≤ many * unit :=
    mul_le_mul_of_nonneg_right (by exact_mod_cast hunits) hunit.le
  push_cast at hunits
  rw [hfew, hmany]
  linarith

/-- A number that is not rounded is at least a unit of its last digit. -/
theorem pow_lastExponent_le (hrounded : rounded digits exact = exact) (hpos : 0 < exact) :
    (10 : ℚ) ^ lastExponent digits exact ≤ exact := by
  obtain ⟨units, hunits⟩ := exists_units_of_rounded hrounded le_rfl
  have hunit : (0 : ℚ) < 10 ^ lastExponent digits exact := by positivity
  generalize (10 : ℚ) ^ lastExponent digits exact = unit at hunits hunit ⊢
  have hone : 1 ≤ units := by
    rw [hunits] at hpos
    exact_mod_cast (mul_pos_iff_of_pos_right hunit).mp hpos
  rw [hunits]
  exact le_mul_of_one_le_left hunit.le (by exact_mod_cast hone)

/-- Moving the point of a number that is not rounded costs half of the smallest unit at most. -/
theorem abs_rounded_mul_pow_sub_le (hrounded : rounded digits exact = exact) (hnonneg : 0 ≤ exact)
    (places : ℤ) :
    |rounded digits (exact * 10 ^ places) - exact * 10 ^ places| ≤
      10 ^ bottomExponent digits / 2 := by
  rcases hnonneg.eq_or_lt with rfl | hpos
  · rw [zero_mul, rounded_zero, sub_zero, abs_zero]
    positivity
  have hlog : Int.log 10 (exact * 10 ^ places) = Int.log 10 exact + places :=
    log_mul_pow hpos places
  rcases eq_or_ne (lastExponent digits (exact * 10 ^ places)) (bottomExponent digits) with
    hbottom | hinner
  · rw [← hbottom]
    exact abs_rounded_sub_le digits (mul_nonneg hnonneg (by positivity))
  · -- the last digit moves along with the point, so all digits are kept
    have hlast : lastExponent digits (exact * 10 ^ places) ≤ lastExponent digits exact + places := by
      unfold lastExponent at hinner ⊢
      omega
    obtain ⟨units, hunits⟩ := exists_units_of_rounded hrounded le_rfl
    have hmoved : exact * 10 ^ places = units * 10 ^ (lastExponent digits exact + places) := by
      rw [zpow_add₀ (by norm_num), ← mul_assoc, ← hunits]
    rw [rounded_eq_self hlast hmoved, sub_self, abs_zero]
    positivity

end Numeral

end PriceBoard
