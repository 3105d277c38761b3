import PriceBoard.Proofs.Decimal.Rounding

/-!
# Operations round once

Products, quotients and differences are what the exact ones become with the digits of the working
precision (`mul_rounds`, `div_rounds`, `sub_rounds`): the operations lose nothing before they round.

For estimates, `Rounds.exists_of_le` and `Rounds.exists_near` say what there is to know about a
result without looking at its digits.  It is there if the exact number is not too large, it is not
above a power of ten that the exact number is not above, and within sixty decades around one it is
off by a fixed share.  Of numbers that are not below zero the sign can be forgotten: what an
operation `Yields` is the rounded exact result, or the report that this is above the working range.
-/

namespace PriceBoard.Numeral

variable {digits : ℕ} {negative : Bool} {exact : ℚ} {exponent : ℤ}
  {result : Except Signal Numeral} {left right number : Numeral}

/-! ## Signs -/

theorem value_eq_magnitude (hsign : number.negative = false) : number.value = number.magnitude := by
  rw [value_eq, hsign]
  rfl

theorem magnitude_eq_abs (number : Numeral) : number.magnitude = |number.value| := by
  rw [value_eq]
  split_ifs
  · rw [abs_neg, abs_of_nonneg (magnitude_nonneg number)]
  · rw [abs_of_nonneg (magnitude_nonneg number)]

theorem negative_of_pos (hpos : 0 < number.value) : number.negative = false := by
  have hmagnitude := magnitude_nonneg number
  rw [value_eq] at hpos
  split_ifs at hpos with hsign
  · linarith
  · simpa using hsign

theorem value_clampNegative (number : Numeral) :
    number.clampNegative.value = max number.value 0 := by
  have hzero : zero.value = 0 := (isZero_iff zero).mp rfl
  unfold clampNegative
  split_ifs with hnegative
  · rw [hzero, max_eq_right ((isNegative_iff number).mp hnegative).le]
  · rw [max_eq_left (not_lt.mp (mt (isNegative_iff number).mpr hnegative))]

/-! ## The operations -/

theorem log_magnitude (hnumber : number.coefficient ≠ 0) :
    Int.log 10 number.magnitude = number.adjusted :=
  log_eq (pow_adjusted_le_magnitude hnumber) (magnitude_lt_pow number)

/-- Giving a numeral so many digits rounds the number that it denotes. -/
theorem fit_rounds (hdigits : 0 < digits) (number : Numeral) :
    Rounds digits number.negative number.magnitude (number.fit digits) := by
  unfold fit
  split_ifs with hfits
  · -- nothing is lost of a numeral that fits
    obtain ⟨hnumber, hcount, hbottom, htop⟩ := fits_iff.mp hfits
    have hlast : lastExponent digits number.magnitude ≤ number.exponent := by
      rw [lastExponent, log_magnitude hnumber]
      unfold adjusted
      omega
    have hkept : rounded digits number.magnitude = number.magnitude := rounded_eq_self hlast rfl
    refine .fits number rfl hkept.symm ?_ fun _ hzero => absurd hzero hnumber
    rw [hkept]
    exact (magnitude_lt_pow number).trans_le (zpow_le_zpow_right₀ (by norm_num) (by omega))
  · have hrounds := roundRatio_rounds hdigits number.negative number.coefficient one_ne_zero
      number.exponent number.exponent
    rwa [Nat.cast_one, div_one] at hrounds

theorem precision_pos : 0 < precision := by
  decide

theorem mul_rounds (left right : Numeral) :
    Rounds precision (left.negative != right.negative) (left.magnitude * right.magnitude)
      (left.mul right) := by
  have hrounds := roundRatio_rounds precision_pos (left.negative != right.negative)
    (left.coefficient * right.coefficient) one_ne_zero (left.exponent + right.exponent)
    (left.exponent + right.exponent)
  have hexact : left.magnitude * right.magnitude =
      ((left.coefficient * right.coefficient : ℕ) : ℚ) / (1 : ℕ) *
        10 ^ (left.exponent + right.exponent) := by
    rw [magnitude, magnitude, zpow_add₀ (by norm_num)]
    push_cast
    ring
  rw [hexact]
  exact hrounds

theorem div_rounds (left : Numeral) (hright : right.coefficient ≠ 0) :
    Rounds precision (left.negative != right.negative) (left.magnitude / right.magnitude)
      (left.div right) := by
  have hrounds := roundRatio_rounds precision_pos (left.negative != right.negative)
    left.coefficient hright (left.exponent - right.exponent) (left.exponent - right.exponent)
  have hexact : left.magnitude / right.magnitude =
      (left.coefficient : ℚ) / right.coefficient * 10 ^ (left.exponent - right.exponent) := by
    rw [magnitude, magnitude, zpow_sub₀ (by norm_num), mul_div_mul_comm]
  rw [hexact]
  exact hrounds

theorem sub_rounds (left right : Numeral) :
    Rounds precision (left.difference right).negative |left.value - right.value|
      (left.sub right) := by
  rw [← value_difference, ← magnitude_eq_abs]
  exact fit_rounds precision_pos (left.difference right)

/-- A zero difference is written with the smaller exponent, if that is in the working range. -/
theorem exponent_sub_of_zero (hsub : left.sub right = .ok number) (hzero : number.coefficient = 0) :
    number.exponent ≤ max left.exponent (bottomExponent precision) := by
  rcases eq_or_ne (left.difference right).coefficient 0 with hnone | hsome
  · have hfit : left.sub right = .ok (zeroNear precision (left.difference right).negative
        (min left.exponent right.exponent)) := fit_of_isZero hnone
    cases hfit.symm.trans hsub
    simp only [zeroNear]
    omega
  · have hrounds := fit_rounds precision_pos (left.difference right)
    have hsub' : (left.difference right).fit precision = .ok number := hsub
    rw [hsub'] at hrounds
    cases hrounds with
    | fits _ _ _ _ hbottom =>
        rw [hbottom (mt (magnitude_eq_zero_iff _).mp hsome) hzero]
        exact le_max_right _ _

/-! ## Estimates -/

/-- A number that is not too large is rounded, to no more than a power of ten above it. -/
theorem Rounds.exists_of_le (hrounds : Rounds digits negative exact result) (hdigits : 0 < digits)
    (hnonneg : 0 ≤ exact) (hbottom : bottomExponent digits ≤ exponent)
    (htop : exponent ≤ topAdjusted) (hle : exact ≤ 10 ^ exponent) :
    ∃ number, result = .ok number ∧ number.negative = negative ∧
      number.magnitude = rounded digits exact ∧ number.magnitude ≤ 10 ^ exponent ∧
      (exact ≠ 0 → number.coefficient = 0 → number.exponent = bottomExponent digits) := by
  have hrounded := rounded_le_pow hdigits hnonneg hbottom hle
  cases hrounds with
  | fits number hsign hmagnitude _ hzero =>
      exact ⟨number, rfl, hsign, hmagnitude, hmagnitude ▸ hrounded, hzero⟩
  | exceeds hrange =>
      have hlt : (10 : ℚ) ^ exponent < 10 ^ (topAdjusted + 1) :=
        zpow_lt_zpow_right₀ (by norm_num) (Int.lt_add_one_iff.mpr htop)
      exact absurd (hrange.trans hrounded) hlt.not_ge

/-- Within sixty decades around one, a result of the working precision is off by half a unit of its
last digit, and that is the following share at most. -/
theorem Rounds.exists_near (hrounds : Rounds precision negative exact result)
    (hlow : (10 : ℚ) ^ (-30 : ℤ) ≤ exact) (hhigh : exact ≤ 10 ^ (30 : ℤ)) :
    ∃ number, result = .ok number ∧ number.negative = negative ∧
      |number.magnitude - exact| ≤ exact * (1 / (2 * 10 ^ 27)) := by
  have hnonneg : 0 ≤ exact := le_trans (by positivity) hlow
  obtain ⟨number, hresult, hsign, hmagnitude, -⟩ :=
    hrounds.exists_of_le precision_pos hnonneg (by decide) (by decide) hhigh
  refine ⟨number, hresult, hsign, ?_⟩
  rw [hmagnitude]
  exact abs_rounded_sub_le_mul precision_pos (by decide) hlow

/-! ## Numbers that are not below zero -/

/-- The result denotes the number, or it would be above the working range. -/
def Yields (exact : ℚ) (result : Except Signal Numeral) : Prop :=
  (∃ number, result = .ok number ∧ number.value = exact) ∨ result = .error .overflow

theorem Yields.value_eq (hyields : Yields exact result) (hresult : result = .ok number) :
    number.value = exact := by
  rcases hyields with ⟨found, hfound, hvalue⟩ | hfault
  · cases hfound.symm.trans hresult
    exact hvalue
  · cases hfault.symm.trans hresult

/-- Only zero has a minus in front of it and is not below zero. -/
theorem magnitude_eq_zero_of_negative (hnonneg : 0 ≤ number.value)
    (hsign : number.negative = true) : number.magnitude = 0 := by
  have hmagnitude := magnitude_nonneg number
  rw [value_eq, if_pos hsign] at hnonneg
  linarith

theorem Rounds.yields (hrounds : Rounds digits negative exact result)
    (hsign : negative = true → exact = 0) : Yields (rounded digits exact) result := by
  cases hrounds with
  | fits number hnegative hmagnitude =>
      refine .inl ⟨number, rfl, ?_⟩
      rw [Numeral.value_eq, hnegative, hmagnitude]
      split_ifs with hminus
      · rw [hsign hminus, rounded_zero, neg_zero]
      · rfl
  | exceeds hrange => exact .inr rfl

theorem mul_yields (hleft : 0 ≤ left.value) (hright : 0 ≤ right.value) :
    Yields (rounded precision (left.value * right.value)) (left.mul right) := by
  rw [← magnitude_eq_value hleft, ← magnitude_eq_value hright]
  refine (mul_rounds left right).yields fun hsign => ?_
  cases hminus : left.negative with
  | true => rw [magnitude_eq_zero_of_negative hleft hminus, zero_mul]
  | false =>
      rw [hminus] at hsign
      rw [magnitude_eq_zero_of_negative hright (by simpa using hsign), mul_zero]

theorem div_yields (hleft : 0 ≤ left.value) (hright : 0 < right.value) :
    Yields (rounded precision (left.value / right.value)) (left.div right) := by
  have hmagnitude := magnitude_eq_value hright.le
  have hdivisor : right.coefficient ≠ 0 := (magnitude_pos_iff right).mp (hmagnitude ▸ hright)
  rw [← magnitude_eq_value hleft, ← hmagnitude]
  refine (div_rounds left hdivisor).yields fun hsign => ?_
  rw [negative_of_pos hright] at hsign
  rw [magnitude_eq_zero_of_negative hleft (by simpa using hsign), zero_div]

theorem sub_yields (hle : right.value ≤ left.value) :
    Yields (rounded precision (left.value - right.value)) (left.sub right) := by
  have hnonneg : 0 ≤ (left.difference right).value := by
    rw [value_difference]
    exact sub_nonneg.mpr hle
  rw [← value_difference, ← magnitude_eq_value hnonneg]
  exact (fit_rounds precision_pos (left.difference right)).yields
    (magnitude_eq_zero_of_negative hnonneg)

end PriceBoard.Numeral
