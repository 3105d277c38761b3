import Mathlib.Data.Int.Log
import Mathlib.Tactic.FieldSimp
import PriceBoard.Proofs.Decimal.Value

/-!
# The nearest number with so many digits

A computed number is the exact one, rounded once.  `rounded` says what that is in terms of numbers:
the multiple of a power of ten that is nearest to the exact number, and the even multiple if two are
equally near.  The power is such that so many digits are left, or the least one of the working
range.

`Rounds` says what becomes of a number in a computation: it is rounded, or it overflows if that is
above the working range.  Ratios, times a power of ten, are computed like this
(`roundRatio_rounds`).  Estimates need two facts about the rounded number:

* it does not cross a multiple of a larger power of ten (`le_rounded`, `rounded_le`);
* it is off by half a unit of the last digit at most (`abs_rounded_sub_le`), hence by a fixed share
  of the number if no digits are lost at the end of the working range (`abs_rounded_sub_le_mul`).
-/

namespace PriceBoard

/-! ## Whole numbers -/

/-- The whole number nearest to a number that is not below zero; the even one, if two are equally
near. -/
def nearestWhole (exact : ℚ) : ℕ :=
  if exact - ⌊exact⌋₊ < 1 / 2 then ⌊exact⌋₊
  else if 1 / 2 < exact - ⌊exact⌋₊ then ⌊exact⌋₊ + 1
  else ⌊exact⌋₊ + ⌊exact⌋₊ % 2

theorem roundHalfEven_eq (numerator : ℕ) {denominator : ℕ} (hdenominator : denominator ≠ 0) :
    roundHalfEven numerator denominator = nearestWhole (numerator / denominator) := by
  have hpos : (0 : ℚ) < denominator := by exact_mod_cast Nat.pos_of_ne_zero hdenominator
  have hrest : (numerator / denominator : ℚ) - ((numerator / denominator : ℕ) : ℚ) =
      ((numerator % denominator : ℕ) : ℚ) / denominator := by
    have hdivision : (denominator : ℚ) * ((numerator / denominator : ℕ) : ℚ) +
        ((numerator % denominator : ℕ) : ℚ) = numerator := by
      exact_mod_cast Nat.div_add_mod numerator denominator
    rw [← hdivision]
    field_simp
    ring
  have hdown : ((numerator % denominator : ℕ) : ℚ) / denominator < 1 / 2 ↔
      2 * (numerator % denominator) < denominator := by
    rw [div_lt_div_iff₀ hpos two_pos, one_mul, mul_comm]
    exact_mod_cast Iff.rfl
  have hup : 1 / 2 < ((numerator % denominator : ℕ) : ℚ) / denominator ↔
      denominator < 2 * (numerator % denominator) := by
    rw [div_lt_div_iff₀ two_pos hpos, one_mul, mul_comm]
    exact_mod_cast Iff.rfl
  simp only [nearestWhole, roundHalfEven, Nat.floor_div_eq_div, hrest, hdown, hup]

theorem le_nearestWhole {exact : ℚ} {bound : ℕ} (hbound : (bound : ℚ) ≤ exact) :
    bound ≤ nearestWhole exact := by
  have hfloor : bound ≤ ⌊exact⌋₊ := Nat.le_floor hbound
  unfold nearestWhole
  split_ifs <;> omega

theorem nearestWhole_le {exact : ℚ} {bound : ℕ} (hbound : exact ≤ bound) :
    nearestWhole exact ≤ bound := by
  have hfloor : ⌊exact⌋₊ ≤ bound := Nat.floor_le_of_le hbound
  unfold nearestWhole
  split_ifs with hdown hup
  · exact hfloor
  all_goals
    -- something is left behind the floor, so the floor is below the bound
    have hstrict : ⌊exact⌋₊ < bound := by
      refine lt_of_le_of_ne hfloor fun heq => hdown ?_
      rw [heq]
      linarith
    omega

/-- The nearest whole number is at most a half away. -/
theorem abs_nearestWhole_sub_le {exact : ℚ} (hnonneg : 0 ≤ exact) :
    |nearestWhole exact - exact| ≤ 1 / 2 := by
  have hfloor := Nat.floor_le hnonneg
  have hnext := Nat.lt_floor_add_one exact
  rw [abs_le]
  unfold nearestWhole
  split_ifs with hdown hup
  · constructor <;> linarith
  · push_cast
    constructor <;> linarith
  · have heven : ((⌊exact⌋₊ % 2 : ℕ) : ℚ) ≤ 1 := by
      exact_mod_cast Nat.le_of_lt_succ (Nat.mod_lt _ two_pos)
    have hnonneg : (0 : ℚ) ≤ ((⌊exact⌋₊ % 2 : ℕ) : ℚ) := Nat.cast_nonneg _
    rw [Nat.cast_add]
    constructor <;> linarith

theorem nearestWhole_eq_zero {exact : ℚ} (hsmall : exact < 1 / 2) : nearestWhole exact = 0 := by
  have hfloor : ⌊exact⌋₊ = 0 := Nat.floor_eq_zero.mpr (by linarith)
  rw [nearestWhole, hfloor, Nat.cast_zero, sub_zero, if_pos hsmall]

theorem nearestWhole_natCast (number : ℕ) : nearestWhole number = number :=
  le_antisymm (nearestWhole_le le_rfl) (le_nearestWhole le_rfl)

namespace Numeral

/-! ## The first digit -/

theorem pow_log_le {exact : ℚ} (hpos : 0 < exact) : (10 : ℚ) ^ Int.log 10 exact ≤ exact := by
  exact_mod_cast Int.zpow_log_le_self (b := 10) (by norm_num) hpos

theorem lt_pow_log (exact : ℚ) : exact < (10 : ℚ) ^ (Int.log 10 exact + 1) := by
  exact_mod_cast Int.lt_zpow_succ_log_self (b := 10) (by norm_num) exact

theorem le_log_iff {exact : ℚ} (hpos : 0 < exact) {exponent : ℤ} :
    exponent ≤ Int.log 10 exact ↔ (10 : ℚ) ^ exponent ≤ exact := by
  have hiff := Int.zpow_le_iff_le_log (b := 10) (by norm_num) (x := exponent) hpos
  exact_mod_cast hiff.symm

theorem log_eq {exact : ℚ} {exponent : ℤ} (hlow : (10 : ℚ) ^ exponent ≤ exact)
    (hhigh : exact < (10 : ℚ) ^ (exponent + 1)) : Int.log 10 exact = exponent := by
  have hpos : 0 < exact := lt_of_lt_of_le (by positivity) hlow
  have hle : exponent ≤ Int.log 10 exact := (le_log_iff hpos).mpr hlow
  have hnot : ¬ exponent + 1 ≤ Int.log 10 exact := by
    rw [le_log_iff hpos]
    exact hhigh.not_ge
  omega

/-- A power of ten as a ratio of two whole ones, of which one is one. -/
theorem pow_toNat_div (exponent : ℤ) :
    ((10 ^ exponent.toNat : ℕ) : ℚ) / ((10 ^ (-exponent).toNat : ℕ) : ℚ) = 10 ^ exponent := by
  push_cast
  rw [← zpow_natCast, ← zpow_natCast, ← zpow_sub₀ (by norm_num)]
  congr 1
  omega

theorem natCast_lt_pow (number : ℕ) : (number : ℚ) < 10 ^ (digitCount number : ℤ) := by
  exact_mod_cast lt_pow_digitCount number

theorem pow_le_natCast {number : ℕ} (hnumber : number ≠ 0) :
    (10 : ℚ) ^ ((digitCount number : ℤ) - 1) ≤ number := by
  have hcount := digitCount_pos number
  rw [show ((digitCount number : ℤ) - 1) = ((digitCount number - 1 : ℕ) : ℤ) by omega]
  exact_mod_cast pow_le_of_digitCount hnumber

/-- The exponent of the first digit of a ratio is found by counting digits. -/
theorem ratioAdjusted_eq {numerator denominator : ℕ} (hnumerator : numerator ≠ 0)
    (hdenominator : denominator ≠ 0) :
    ratioAdjusted numerator denominator = Int.log 10 (numerator / denominator : ℚ) := by
  have hnum : (0 : ℚ) < numerator := by exact_mod_cast Nat.pos_of_ne_zero hnumerator
  have hden : (0 : ℚ) < denominator := by exact_mod_cast Nat.pos_of_ne_zero hdenominator
  set estimate : ℤ := (digitCount numerator : ℤ) - digitCount denominator with hestimate
  -- the ratio is off the estimate by one digit at most
  have habove : (numerator / denominator : ℚ) < 10 ^ (estimate + 1) := by
    rw [div_lt_iff₀ hden]
    calc (numerator : ℚ) < 10 ^ (digitCount numerator : ℤ) := natCast_lt_pow numerator
      _ = 10 ^ (estimate + 1) * 10 ^ ((digitCount denominator : ℤ) - 1) := by
          rw [← zpow_add₀ (by norm_num)]
          congr 1
          omega
      _ ≤ 10 ^ (estimate + 1) * denominator :=
          mul_le_mul_of_nonneg_left (pow_le_natCast hdenominator) (by positivity)
  have hbelow : (10 : ℚ) ^ (estimate - 1) ≤ numerator / denominator := by
    rw [le_div_iff₀ hden]
    calc (10 : ℚ) ^ (estimate - 1) * denominator
        ≤ 10 ^ (estimate - 1) * 10 ^ (digitCount denominator : ℤ) :=
          mul_le_mul_of_nonneg_left (natCast_lt_pow denominator).le (by positivity)
      _ = 10 ^ ((digitCount numerator : ℤ) - 1) := by
          rw [← zpow_add₀ (by norm_num)]
          congr 1
          omega
      _ ≤ numerator := pow_le_natCast hnumerator
  -- the comparison decides between the two
  have htest : denominator * tenPower estimate.toNat ≤ numerator * tenPower (-estimate).toNat ↔
      (10 : ℚ) ^ estimate ≤ numerator / denominator := by
    have hscale : (0 : ℚ) < ((10 ^ (-estimate).toNat : ℕ) : ℚ) := by positivity
    rw [← pow_toNat_div estimate, div_le_div_iff₀ hscale hden, tenPower_eq, tenPower_eq,
      mul_comm denominator]
    exact_mod_cast Iff.rfl
  rw [ratioAdjusted]
  simp only [← hestimate]
  split_ifs with hle
  · exact (log_eq (htest.mp hle) habove).symm
  · refine (log_eq hbelow ?_).symm
    rw [sub_add_cancel]
    exact not_le.mp (mt htest.mpr hle)

/-! ## The rounded number -/

/-- The exponent of the last digit that is kept of a number with so many digits. -/
def lastExponent (digits : ℕ) (exact : ℚ) : ℤ :=
  max (Int.log 10 exact - (digits - 1)) (bottomExponent digits)

/-- The number nearest to a number that is not below zero among those with so many digits in the
working range. -/
def rounded (digits : ℕ) (exact : ℚ) : ℚ :=
  nearestWhole (exact / 10 ^ lastExponent digits exact) * 10 ^ lastExponent digits exact

variable {digits : ℕ} {exact : ℚ} {exponent : ℤ}

theorem rounded_nonneg (digits : ℕ) (exact : ℚ) : 0 ≤ rounded digits exact := by
  unfold rounded
  positivity

@[simp] theorem rounded_zero (digits : ℕ) : rounded digits 0 = 0 := by
  have hwhole : nearestWhole 0 = 0 := by exact_mod_cast nearestWhole_natCast 0
  simp [rounded, hwhole]

/-- A multiple of a power of ten, as a multiple of a smaller one. -/
theorem exists_multiple (units : ℕ) {larger : ℤ} (hle : exponent ≤ larger) :
    ∃ multiple : ℕ, (units : ℚ) * 10 ^ larger = multiple * 10 ^ exponent := by
  obtain ⟨shift, hshift⟩ := Int.eq_ofNat_of_zero_le (sub_nonneg.mpr hle)
  refine ⟨units * 10 ^ shift, ?_⟩
  have hsplit : larger = shift + exponent := by omega
  rw [hsplit, zpow_add₀ (by norm_num), zpow_natCast]
  push_cast
  ring

/-- Rounding does not go below a number of the same or a coarser grid. -/
theorem le_rounded {units : ℕ} (hexponent : lastExponent digits exact ≤ exponent)
    (hle : units * 10 ^ exponent ≤ exact) : units * 10 ^ exponent ≤ rounded digits exact := by
  obtain ⟨multiple, hmultiple⟩ := exists_multiple units hexponent
  rw [hmultiple] at hle ⊢
  have hunit : (0 : ℚ) < 10 ^ lastExponent digits exact := by positivity
  have hwhole := le_nearestWhole ((le_div_iff₀ hunit).mpr hle)
  exact mul_le_mul_of_nonneg_right (by exact_mod_cast hwhole) hunit.le

/-- Rounding does not go above a number of the same or a coarser grid. -/
theorem rounded_le {units : ℕ} (hexponent : lastExponent digits exact ≤ exponent)
    (hle : exact ≤ units * 10 ^ exponent) : rounded digits exact ≤ units * 10 ^ exponent := by
  obtain ⟨multiple, hmultiple⟩ := exists_multiple units hexponent
  rw [hmultiple] at hle ⊢
  have hunit : (0 : ℚ) < 10 ^ lastExponent digits exact := by positivity
  have hwhole := nearestWhole_le ((div_le_iff₀ hunit).mpr hle)
  exact mul_le_mul_of_nonneg_right (by exact_mod_cast hwhole) hunit.le

/-- A number of the grid is not rounded. -/
theorem rounded_eq_self {units : ℕ} (hexponent : lastExponent digits exact ≤ exponent)
    (heq : exact = units * 10 ^ exponent) : rounded digits exact = exact := by
  have hlow := le_rounded hexponent heq.ge
  have hhigh := rounded_le hexponent heq.le
  linarith

theorem lastExponent_le (hpos : 0 < exact) (hbottom : bottomExponent digits ≤ exponent)
    (hle : exact ≤ 10 ^ (exponent + digits - 1)) : lastExponent digits exact ≤ exponent := by
  have hlog : ¬ exponent + digits ≤ Int.log 10 exact := by
    rw [le_log_iff hpos, not_le]
    exact hle.trans_lt (zpow_lt_zpow_right₀ (by norm_num) (by omega))
  unfold lastExponent
  omega

/-- Rounding does not go above a power of ten of the working range. -/
theorem rounded_le_pow (hdigits : 0 < digits) (hnonneg : 0 ≤ exact)
    (hbottom : bottomExponent digits ≤ exponent) (hle : exact ≤ 10 ^ exponent) :
    rounded digits exact ≤ 10 ^ exponent := by
  rcases hnonneg.eq_or_lt with rfl | hpos
  · rw [rounded_zero]
    positivity
  · have hdigit : exact ≤ 10 ^ (exponent + digits - 1) :=
      hle.trans (zpow_le_zpow_right₀ (by norm_num) (by omega))
    have hone : exact ≤ (1 : ℕ) * 10 ^ exponent := by simpa using hle
    simpa using rounded_le (lastExponent_le hpos hbottom hdigit) hone

/-- Rounding does not go below a power of ten of the working range. -/
theorem pow_le_rounded (hdigits : 0 < digits) (hbottom : bottomExponent digits ≤ exponent)
    (hle : (10 : ℚ) ^ exponent ≤ exact) : (10 : ℚ) ^ exponent ≤ rounded digits exact := by
  have hpos : 0 < exact := lt_of_lt_of_le (by positivity) hle
  have hlog : exponent ≤ Int.log 10 exact := (le_log_iff hpos).mpr hle
  have hlast : lastExponent digits exact ≤ Int.log 10 exact := by
    unfold lastExponent
    omega
  have hone : ((1 : ℕ) : ℚ) * 10 ^ Int.log 10 exact ≤ exact := by simpa using pow_log_le hpos
  have hgrid : (10 : ℚ) ^ Int.log 10 exact ≤ rounded digits exact := by
    simpa using le_rounded hlast hone
  exact (zpow_le_zpow_right₀ (by norm_num) hlog).trans hgrid

/-- The rounded number is off by half a unit of its last digit at most. -/
theorem abs_rounded_sub_le (digits : ℕ) (hnonneg : 0 ≤ exact) :
    |rounded digits exact - exact| ≤ 10 ^ lastExponent digits exact / 2 := by
  have hunit : (0 : ℚ) < 10 ^ lastExponent digits exact := by positivity
  have hwhole := abs_nearestWhole_sub_le (div_nonneg hnonneg hunit.le)
  have hsplit : rounded digits exact - exact =
      (nearestWhole (exact / 10 ^ lastExponent digits exact) -
        exact / 10 ^ lastExponent digits exact) * 10 ^ lastExponent digits exact := by
    rw [rounded, sub_mul, div_mul_cancel₀ _ hunit.ne']
  rw [hsplit, abs_mul, abs_of_pos hunit]
  linarith [mul_le_mul_of_nonneg_right hwhole hunit.le]

/-- A number of the working range keeps all its digits but the last. -/
theorem abs_rounded_sub_le_mul (hdigits : 0 < digits) (hlow : lowAdjusted ≤ exponent)
    (hle : (10 : ℚ) ^ exponent ≤ exact) :
    |rounded digits exact - exact| ≤ exact * (1 / (2 * 10 ^ (digits - 1))) := by
  have hpos : 0 < exact := lt_of_lt_of_le (by positivity) hle
  have hlog : exponent ≤ Int.log 10 exact := (le_log_iff hpos).mpr hle
  have hlast : lastExponent digits exact = Int.log 10 exact - ((digits - 1 : ℕ) : ℤ) := by
    unfold lastExponent bottomExponent
    omega
  have hunit : (10 : ℚ) ^ lastExponent digits exact ≤ exact / 10 ^ (digits - 1) := by
    rw [hlast, zpow_sub₀ (by norm_num), zpow_natCast]
    exact div_le_div_of_nonneg_right (pow_log_le hpos) (by positivity)
  calc |rounded digits exact - exact|
      ≤ 10 ^ lastExponent digits exact / 2 := abs_rounded_sub_le digits hpos.le
    _ ≤ exact / 10 ^ (digits - 1) / 2 := by linarith
    _ = exact * (1 / (2 * 10 ^ (digits - 1))) := by ring

/-! ## Results -/

/-- What the exact number becomes in a computation with so many digits. -/
inductive Rounds (digits : ℕ) (negative : Bool) (exact : ℚ) : Except Signal Numeral → Prop where
  /-- It is rounded; if nothing is left of it, the result is the zero at the end of the working
  range. -/
  | fits (number : Numeral) (sign : number.negative = negative)
      (magnitude : number.magnitude = rounded digits exact)
      (range : rounded digits exact < 10 ^ (topAdjusted + 1))
      (zero : exact ≠ 0 → number.coefficient = 0 → number.exponent = bottomExponent digits) :
      Rounds digits negative exact (.ok number)
  /-- It is above the working range. -/
  | exceeds (range : 10 ^ (topAdjusted + 1) ≤ rounded digits exact) :
      Rounds digits negative exact (.error .overflow)

theorem magnitude_dropZeros (ideal : ℤ) (limit coefficient : ℕ) (exponent : ℤ) (negative : Bool) :
    Numeral.magnitude ⟨negative, (dropZeros ideal limit coefficient exponent).1,
      (dropZeros ideal limit coefficient exponent).2⟩ = coefficient * 10 ^ exponent := by
  induction limit generalizing coefficient exponent with
  | zero => rfl
  | succ limit ih =>
      rw [dropZeros]
      split_ifs with hdrop
      · -- the digit that is dropped is a zero
        have hzero : coefficient % 10 = 0 := by simpa using (Bool.and_eq_true_iff.mp hdrop).2
        have hten : (coefficient : ℚ) = (coefficient / 10 : ℕ) * 10 := by
          exact_mod_cast (Nat.div_mul_cancel (Nat.dvd_of_mod_eq_zero hzero)).symm
        rw [ih, hten, zpow_add₀ (by norm_num), zpow_one]
        ring
      · rfl

theorem log_mul_pow {number : ℚ} (hpos : 0 < number) (exponent : ℤ) :
    Int.log 10 (number * 10 ^ exponent) = Int.log 10 number + exponent := by
  have hpower : (0 : ℚ) < 10 ^ exponent := by positivity
  refine log_eq ?_ ?_
  · rw [zpow_add₀ (by norm_num)]
    exact mul_le_mul_of_nonneg_right (pow_log_le hpos) hpower.le
  · rw [add_right_comm, zpow_add₀ (by norm_num)]
    exact mul_lt_mul_of_pos_right (lt_pow_log number) hpower

theorem natPow_mul_pow (digits : ℕ) (exponent : ℤ) :
    ((10 ^ digits : ℕ) : ℚ) * 10 ^ exponent = 10 ^ (digits + exponent) := by
  rw [zpow_add₀ (by norm_num), zpow_natCast]
  push_cast
  rfl

theorem log_lt_add_lastExponent (digits : ℕ) (exact : ℚ) :
    Int.log 10 exact + 1 ≤ digits + lastExponent digits exact := by
  unfold lastExponent
  omega

/-- The exact number has so many digits in front of its last one at most. -/
theorem div_pow_lastExponent_le (digits : ℕ) (exact : ℚ) :
    exact / 10 ^ lastExponent digits exact ≤ ((10 ^ digits : ℕ) : ℚ) := by
  have hunit : (0 : ℚ) < 10 ^ lastExponent digits exact := by positivity
  rw [div_le_iff₀ hunit, natPow_mul_pow]
  exact (lt_pow_log exact).le.trans
    (zpow_le_zpow_right₀ (by norm_num) (log_lt_add_lastExponent digits exact))

theorem lt_pow_of_log_le {bound : ℤ} (hbound : Int.log 10 exact ≤ bound) :
    exact < 10 ^ (bound + 1) :=
  (lt_pow_log exact).trans_le (zpow_le_zpow_right₀ (by norm_num) (by omega))

theorem bottomExponent_add (digits : ℕ) : bottomExponent digits + digits = lowAdjusted + 1 := by
  unfold bottomExponent
  omega

theorem bottomExponent_le_topAdjusted (hdigits : 0 < digits) :
    bottomExponent digits ≤ topAdjusted := by
  simp only [bottomExponent, lowAdjusted, topAdjusted]
  omega

/-- So many digits, counted from the last one, do not leave the working range. -/
theorem add_lastExponent_le {bound : ℤ} (hlog : Int.log 10 exact ≤ bound)
    (hbound : lowAdjusted ≤ bound) : digits + lastExponent digits exact ≤ bound + 1 := by
  have hbottom := bottomExponent_add digits
  unfold lastExponent
  omega

/-- If nothing is left of a number, then its last digit is at the end of the working range. -/
theorem lastExponent_of_nearestWhole_eq_zero (hdigits : 0 < digits) (hpos : 0 < exact)
    (hzero : nearestWhole (exact / 10 ^ lastExponent digits exact) = 0) :
    lastExponent digits exact = bottomExponent digits := by
  by_contra hlast
  have hlog : lastExponent digits exact ≤ Int.log 10 exact := by
    unfold lastExponent at hlast ⊢
    omega
  have hunit : (0 : ℚ) < 10 ^ lastExponent digits exact := by positivity
  have hone : ((1 : ℕ) : ℚ) ≤ exact / 10 ^ lastExponent digits exact := by
    rw [Nat.cast_one, one_le_div₀ hunit]
    exact (le_log_iff hpos).mp hlog
  have := le_nearestWhole hone
  omega

/-- Less than half a unit of the smallest last digit is rounded to nothing. -/
theorem rounded_eq_zero (hpos : 0 < exact) (hsmall : Int.log 10 exact < bottomExponent digits - 1) :
    rounded digits exact = 0 := by
  have hlast : lastExponent digits exact = bottomExponent digits := by
    unfold lastExponent
    omega
  have hunit : (0 : ℚ) < 10 ^ bottomExponent digits := by positivity
  have hbelow : exact < 10 ^ bottomExponent digits * 10⁻¹ := by
    rw [← zpow_neg_one, ← zpow_add₀ (by norm_num)]
    exact (lt_pow_log exact).trans_le (zpow_le_zpow_right₀ (by norm_num) (by omega))
  have htenth : exact / 10 ^ bottomExponent digits < 1 / 2 := by
    rw [div_lt_iff₀ hunit]
    linarith
  rw [rounded, hlast, nearestWhole_eq_zero htenth, Nat.cast_zero, zero_mul]

/-- A ratio, times a power of ten, in units of its last digit. -/
theorem ratio_in_units (digits numerator denominator : ℕ) (exponent : ℤ) {exact : ℚ}
    (hexact : exact = numerator / denominator * 10 ^ exponent) :
    ((numerator * 10 ^ (exponent - lastExponent digits exact).toNat : ℕ) : ℚ) /
        ((denominator * 10 ^ (-(exponent - lastExponent digits exact)).toNat : ℕ) : ℚ) =
      exact / 10 ^ lastExponent digits exact := by
  rw [Nat.cast_mul, Nat.cast_mul, mul_div_mul_comm, pow_toNat_div, zpow_sub₀ (by norm_num),
    ← mul_div_assoc, ← hexact]

/-- A whole number of units is kept, and only written with other zeros at its end. -/
theorem rounds_of_multiple {units : ℕ} (hgrid : exact = units * 10 ^ lastExponent digits exact)
    (hsome : exact ≠ 0) (hlog : Int.log 10 exact ≤ topAdjusted) (ideal : ℤ) (negative : Bool) :
    Rounds digits negative exact (.ok ⟨negative,
      (dropZeros ideal digits (nearestWhole (exact / 10 ^ lastExponent digits exact))
        (lastExponent digits exact)).1,
      (dropZeros ideal digits (nearestWhole (exact / 10 ^ lastExponent digits exact))
        (lastExponent digits exact)).2⟩) := by
  have hkept : rounded digits exact = exact := rounded_eq_self le_rfl hgrid
  have hmagnitude := magnitude_dropZeros ideal digits
    (nearestWhole (exact / 10 ^ lastExponent digits exact)) (lastExponent digits exact) negative
  refine .fits _ rfl hmagnitude ?_ fun _ hnone => ?_
  · rw [hkept]
    exact lt_pow_of_log_le hlog
  · rw [(magnitude_eq_zero_iff _).mpr hnone] at hmagnitude
    exact absurd (hkept.symm.trans hmagnitude.symm) hsome

/-- A carry makes one more digit, and the last one is dropped. -/
theorem rounds_of_carry (hdigits : 0 < digits)
    (hcarry : nearestWhole (exact / 10 ^ lastExponent digits exact) = 10 ^ digits)
    (hlog : Int.log 10 exact ≤ topAdjusted - 1) (negative : Bool) :
    Rounds digits negative exact
      (.ok ⟨negative, 10 ^ (digits - 1), lastExponent digits exact + 1⟩) := by
  have htop : digits + lastExponent digits exact ≤ topAdjusted - 1 + 1 :=
    add_lastExponent_le hlog (by decide)
  have hcarried : rounded digits exact = 10 ^ (digits + lastExponent digits exact) := by
    rw [rounded, hcarry, natPow_mul_pow]
  refine .fits _ rfl ?_ ?_ fun _ hnone => absurd hnone (by positivity)
  · have hsplit : ((digits - 1 : ℕ) : ℤ) + (lastExponent digits exact + 1) =
        digits + lastExponent digits exact := by omega
    rw [hcarried, magnitude, natPow_mul_pow, hsplit]
  · rw [hcarried]
    exact zpow_lt_zpow_right₀ (by norm_num) (by omega)

/-- Without a carry, the nearest whole number of units is the coefficient. -/
theorem rounds_of_lt (hdigits : 0 < digits) (hpos : 0 < exact)
    (hbelow : nearestWhole (exact / 10 ^ lastExponent digits exact) < 10 ^ digits)
    (hlog : Int.log 10 exact ≤ topAdjusted) (negative : Bool) :
    Rounds digits negative exact (.ok ⟨negative,
      nearestWhole (exact / 10 ^ lastExponent digits exact), lastExponent digits exact⟩) := by
  have htop : digits + lastExponent digits exact ≤ topAdjusted + 1 :=
    add_lastExponent_le hlog (by decide)
  refine .fits _ rfl rfl ?_ fun _ hnone => ?_
  · calc rounded digits exact
        < ((10 ^ digits : ℕ) : ℚ) * 10 ^ lastExponent digits exact :=
          mul_lt_mul_of_pos_right (by exact_mod_cast hbelow) (by positivity)
      _ = 10 ^ (digits + lastExponent digits exact) := natPow_mul_pow _ _
      _ ≤ 10 ^ (topAdjusted + 1) := zpow_le_zpow_right₀ (by norm_num) htop
  · exact lastExponent_of_nearestWhole_eq_zero hdigits hpos hnone

/-- Rounding a ratio, times a power of ten. -/
theorem roundRatio_rounds (hdigits : 0 < digits) (negative : Bool) (numerator : ℕ)
    {denominator : ℕ} (hdenominator : denominator ≠ 0) (exponent ideal : ℤ) :
    Rounds digits negative (numerator / denominator * 10 ^ exponent)
      (roundRatio digits negative numerator denominator exponent ideal) := by
  generalize hexact : (numerator / denominator * 10 ^ exponent : ℚ) = exact
  have hrange : (0 : ℚ) < 10 ^ (topAdjusted + 1) := by positivity
  unfold roundRatio
  split_ifs with hzero
  · have hnothing : exact = 0 := by simp [← hexact, hzero]
    have hrounded : rounded digits exact = 0 := by rw [hnothing, rounded_zero]
    refine .fits _ rfl ?_ (hrounded ▸ hrange) (absurd hnothing)
    rw [hrounded, magnitude_eq_zero_iff]
    rfl
  have hratio : (0 : ℚ) < numerator / denominator := by
    have hnumerator := Nat.pos_of_ne_zero hzero
    have hdenominator := Nat.pos_of_ne_zero hdenominator
    positivity
  have hpos : 0 < exact := hexact ▸ mul_pos hratio (by positivity)
  have hfirst : ratioAdjusted numerator denominator + exponent = Int.log 10 exact := by
    rw [ratioAdjusted_eq hzero hdenominator, ← hexact, log_mul_pow hratio]
  have hlast : max (Int.log 10 exact - (digits - 1)) (bottomExponent digits) =
      lastExponent digits exact := rfl
  have hunits := ratio_in_units digits numerator denominator exponent hexact.symm
  have hscale : denominator * 10 ^ (-(exponent - lastExponent digits exact)).toNat ≠ 0 := by
    positivity
  simp only [hfirst, hlast, tenPower_eq, roundHalfEven_eq _ hscale, hunits]
  have hend := bottomExponent_le_topAdjusted hdigits
  have hlength := nearestWhole_le (div_pow_lastExponent_le digits exact)
  split_ifs with habove hbelow hexactly hcarry hover
  · -- the first digit is above the working range
    have hlarge := (le_log_iff hpos).mp (Int.add_one_le_iff.mpr habove)
    exact .exceeds (pow_le_rounded hdigits (hend.trans (Int.le_add_one le_rfl)) hlarge)
  · -- less than half a unit of the smallest last digit is left
    have hnothing := rounded_eq_zero hpos hbelow
    refine .fits _ rfl ?_ (hnothing ▸ hrange) fun _ _ => rfl
    rw [hnothing, magnitude_eq_zero_iff]
  · obtain ⟨multiple, hmultiple⟩ := Nat.dvd_of_mod_eq_zero hexactly
    have hwhole : (multiple : ℚ) = exact / 10 ^ lastExponent digits exact := by
      rw [← hunits, hmultiple, Nat.cast_mul, mul_div_cancel_left₀ _ (by exact_mod_cast hscale)]
    have hgrid : exact = multiple * 10 ^ lastExponent digits exact := by
      rw [hwhole, div_mul_cancel₀ _ (by positivity)]
    exact rounds_of_multiple hgrid hpos.ne' (not_lt.mp habove) ideal negative
  · -- the carry leaves the working range
    have hlog := log_lt_add_lastExponent digits exact
    refine .exceeds ?_
    rw [rounded, hcarry, natPow_mul_pow]
    exact zpow_le_zpow_right₀ (by norm_num) (by omega)
  · exact rounds_of_carry hdigits hcarry (by omega) negative
  · exact rounds_of_lt hdigits hpos (lt_of_le_of_ne hlength hcarry) (not_lt.mp habove) negative

end Numeral

end PriceBoard
