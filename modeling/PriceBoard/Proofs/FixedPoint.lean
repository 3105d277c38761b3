import PriceBoard.Fault
import PriceBoard.Proofs.Decimal.Value

/-!
# The fixed-point price is the floor

The price of a decimal is computed in pieces: a test of the first digit, the whole part, the places
behind the point with a number of digits of their own, and a bound at the end.  Here the pieces are
put together: the price of a positive decimal `v` whose whole part is small enough is
`⌊v · 10 ^ 12⌋`, at most the largest price, for every way to write `v`.

## Strategy

Between the two tests of the first digit a numeral is `InBand`.  What is left of it behind the point
is `remainder`, an exact difference.  It either is zero or has no more digits than the numeral
itself, so the working digits never round it, neither before nor after it is put into units
(`fits_shift_remainder`), and `fractionUnits_eq` reads off the units.  Outside the band the first
digit alone decides, and `magnitude_lt_pow` and `pow_adjusted_le_magnitude` say that it decides
rightly.
-/

namespace PriceBoard.FixedPoint

open Numeral

variable {number : Numeral}

@[simp] theorem places_eq : places = 12 := rfl

@[simp] theorem scale_eq : scale = 10 ^ 12 := rfl

@[simp] theorem largest_eq : largest = 2 ^ 128 - 1 := rfl

/-- A numeral that is not below zero and has its first digit in the range in which the conversion
goes to the digits. -/
structure InBand (number : Numeral) : Prop where
  nonneg : 0 ≤ number.value
  low : -12 ≤ number.adjusted
  high : number.adjusted < 27

/-- What is left of the number behind the point. -/
def remainder (number : Numeral) : Numeral :=
  number.difference (.ofInt (number.truncatedUnits 0))

theorem truncatedUnits_zero (hnonneg : 0 ≤ number.value) :
    number.truncatedUnits 0 = ⌊number.value⌋₊ := by
  rw [truncatedUnits_eq_floor, magnitude_eq_value hnonneg, pow_zero, mul_one]

/-! ## The remainder -/

theorem value_remainder (hnonneg : 0 ≤ number.value) :
    (remainder number).value = number.value - ⌊number.value⌋₊ := by
  rw [remainder, value_difference, value_ofInt, truncatedUnits_zero hnonneg, Int.cast_natCast]

theorem value_remainder_nonneg (hnonneg : 0 ≤ number.value) : 0 ≤ (remainder number).value := by
  rw [value_remainder hnonneg, sub_nonneg]
  exact Nat.floor_le hnonneg

/-- A numeral without places behind the point leaves nothing. -/
theorem coefficient_remainder_of_exponent_nonneg (hnonneg : 0 ≤ number.value)
    (hexponent : 0 ≤ number.exponent) : (remainder number).coefficient = 0 := by
  obtain ⟨shift, hshift⟩ := Int.eq_ofNat_of_zero_le hexponent
  have hwhole : number.value = ((number.coefficient * 10 ^ shift : ℕ) : ℚ) := by
    rw [← magnitude_eq_value hnonneg, magnitude, hshift, zpow_natCast]
    norm_num
  have hzero : (remainder number).value = 0 := by
    rw [value_remainder hnonneg, hwhole, Nat.floor_natCast, sub_self]
  simpa [isZero] using (isZero_iff _).mpr hzero

/-- The remainder is written with the digits of the numeral at its end. -/
theorem remainder_digits (hnonneg : 0 ≤ number.value)
    (hrest : (remainder number).coefficient ≠ 0) :
    (remainder number).exponent = number.exponent ∧
      (remainder number).coefficient ≤ number.coefficient := by
  have hbehind : number.exponent < 0 := by
    by_contra hge
    exact hrest (coefficient_remainder_of_exponent_nonneg hnonneg (not_lt.mp hge))
  have hexponent : (remainder number).exponent = number.exponent := min_eq_left hbehind.le
  refine ⟨hexponent, ?_⟩
  have hle : (remainder number).magnitude ≤ number.magnitude := by
    rw [magnitude_eq_value hnonneg, magnitude_eq_value (value_remainder_nonneg hnonneg),
      value_remainder hnonneg, sub_le_self_iff]
    exact Nat.cast_nonneg _
  rw [magnitude, magnitude, hexponent] at hle
  exact_mod_cast le_of_mul_le_mul_right hle (by positivity)

/-! ## The working digits round nothing -/

/-- Moving the point of the remainder by a few places keeps it within the working digits. -/
theorem fits_shift_remainder (hband : InBand number) (hrest : (remainder number).coefficient ≠ 0)
    {places : ℤ} (hlow : 0 ≤ places) (hhigh : places ≤ 12) :
    ((remainder number).shift places).fits (workingDigits number) = true := by
  obtain ⟨hexponent, hcoefficient⟩ := remainder_digits hband.nonneg hrest
  have hcount := digitCount_mono hcoefficient
  have hpos := digitCount_pos number.coefficient
  have hadjusted := hband.low
  have hadjusted' := hband.high
  rw [fits_iff]
  -- with the exponent and the number of digits bounded, what is left is arithmetic
  simp only [shift, adjusted, workingDigits, bottomExponent, lowAdjusted, topAdjusted, precision,
    places_eq, hexponent] at *
  refine ⟨hrest, ?_, ?_, ?_⟩ <;> omega

theorem subWithin_eq (hband : InBand number) (hrest : (remainder number).coefficient ≠ 0) :
    number.subWithin (workingDigits number) (.ofInt (number.truncatedUnits 0)) =
      .ok (remainder number) := by
  have hfits := fits_shift_remainder hband hrest le_rfl (by norm_num)
  rw [shift_zero] at hfits
  exact fit_of_fits hfits

/-- The places behind the point, in units, are computed exactly. -/
theorem fractionUnits_eq (hband : InBand number) :
    fractionUnits number (number.truncatedUnits 0) =
      .ok ⌊(number.value - ⌊number.value⌋₊) * 10 ^ 12⌋₊ := by
  have hnonneg := hband.nonneg
  have hlongest : ((places : ℤ).natAbs : ℤ) ≤ longestShift (workingDigits number) := by
    simp only [places_eq, longestShift, topAdjusted]
    omega
  rcases eq_or_ne (remainder number).coefficient 0 with hzero | hrest
  · -- nothing is left behind the point
    have hvalue : (remainder number).value = 0 := (isZero_iff _).mp (by simp [isZero, hzero])
    have hsub : number.subWithin (workingDigits number) (.ofInt (number.truncatedUnits 0)) =
        .ok (zeroNear (workingDigits number) (remainder number).negative
          (remainder number).exponent) := fit_of_isZero hzero
    rw [fractionUnits, hsub]
    simp only [bind, Except.bind, shiftWithin, if_pos hlongest]
    rw [fit_of_isZero rfl]
    simp only [pure, Except.pure, truncatedUnits_eq_floor]
    rw [← value_remainder hnonneg, hvalue, (magnitude_eq_zero_iff _).mpr rfl]
    simp
  · -- both steps are exact, because what they compute fits
    rw [fractionUnits, subWithin_eq hband hrest]
    simp only [bind, Except.bind, shiftWithin, if_pos hlongest]
    rw [fit_of_fits (fits_shift_remainder hband hrest (by simp) (by simp))]
    simp only [pure, Except.pure, truncatedUnits_eq_floor, magnitude_shift, pow_zero, mul_one]
    rw [magnitude_eq_value (value_remainder_nonneg hnonneg), value_remainder hnonneg, places_eq,
      zpow_natCast]

/-! ## The price -/

/-- Whole part and places behind the point add up to the floor. -/
theorem floor_units {value : ℚ} (hnonneg : 0 ≤ value) :
    ⌊value⌋₊ * 10 ^ 12 + ⌊(value - ⌊value⌋₊) * 10 ^ 12⌋₊ = ⌊value * 10 ^ 12⌋₊ := by
  have hsplit : value * 10 ^ 12 =
      (value - ⌊value⌋₊) * 10 ^ 12 + ((⌊value⌋₊ * 10 ^ 12 : ℕ) : ℚ) := by
    push_cast
    ring
  have hrest : 0 ≤ (value - ⌊value⌋₊) * 10 ^ 12 :=
    mul_nonneg (sub_nonneg.mpr (Nat.floor_le hnonneg)) (by norm_num)
  rw [hsplit, Nat.floor_add_natCast hrest, add_comm]

/-- The places behind the point are less than a whole unit of the price. -/
theorem floor_fraction_lt (value : ℚ) : ⌊(value - ⌊value⌋₊) * 10 ^ 12⌋₊ < 10 ^ 12 := by
  have hfloor := Nat.lt_floor_add_one value
  refine (Nat.floor_lt' (by norm_num)).mpr ?_
  push_cast
  linarith

/-- In the band the price is the floor, if the whole part is small enough. -/
theorem ofNumeral_of_inBand (hband : InBand number) :
    ofNumeral number =
      if ⌊number.value⌋₊ * 10 ^ 12 ≤ 2 ^ 128 - 1
      then .ok (min ⌊number.value * 10 ^ 12⌋₊ (2 ^ 128 - 1)) else .error (.tooLarge number) := by
  have hsign : ¬ number.isNegative = true := by
    rw [isNegative_iff]
    exact hband.nonneg.not_gt
  have hlow : ¬ number.adjusted < -(places : ℤ) := not_lt.mpr hband.low
  have hhigh : ¬ (wholeDigits : ℤ) ≤ number.adjusted := not_le.mpr hband.high
  have hfraction := floor_fraction_lt number.value
  rw [ofNumeral, if_neg hsign, if_neg hhigh, if_neg hlow]
  simp only [fractionUnits_eq hband]
  simp only [truncatedUnits_zero hband.nonneg, scale_eq, largest_eq, floor_units hband.nonneg]
  rcases Nat.lt_or_ge (2 ^ 128 - 1) (⌊number.value⌋₊ * 10 ^ 12) with hlarge | hsmall
  · rw [if_pos (by simp only [hlarge, decide_true, Bool.true_or]), if_neg hlarge.not_ge]
  · have hkept : ¬ 2 ^ 128 - 1 < ⌊(number.value - ⌊number.value⌋₊) * 10 ^ 12⌋₊ := by omega
    rw [if_neg (by simp only [hsmall.not_gt, hkept, decide_false, Bool.or_self, not_false_eq_true,
      Bool.false_eq_true]), if_pos hsmall]

/-- The price of every positive numeral. -/
theorem ofNumeral_of_pos (hpos : 0 < number.value) :
    ofNumeral number =
      if ⌊number.value⌋₊ * 10 ^ 12 ≤ 2 ^ 128 - 1
      then .ok (min ⌊number.value * 10 ^ 12⌋₊ (2 ^ 128 - 1)) else .error (.tooLarge number) := by
  have hsign : ¬ number.isNegative = true := by
    rw [isNegative_iff]
    exact hpos.le.not_gt
  have hmagnitude : number.magnitude = number.value := magnitude_eq_value hpos.le
  rcases le_or_gt 27 number.adjusted with hhigh | hhigh
  · -- the first digit is too far to the left: the whole part has 28 digits at least
    have hzero : number.coefficient ≠ 0 := (magnitude_pos_iff _).mp (hmagnitude ▸ hpos)
    have hlarge : (10 : ℚ) ^ (27 : ℕ) ≤ number.value := by
      rw [← hmagnitude, ← zpow_natCast]
      exact (zpow_le_zpow_right₀ (by norm_num) hhigh).trans (pow_adjusted_le_magnitude hzero)
    have hwhole : 10 ^ 27 ≤ ⌊number.value⌋₊ := Nat.le_floor (by exact_mod_cast hlarge)
    rw [ofNumeral, if_neg hsign, if_pos (by exact hhigh), if_neg (by omega)]
  rcases lt_or_ge number.adjusted (-12) with hlow | hlow
  · -- the first digit is too far to the right: less than a unit is left
    have hsmall : number.value < (10 ^ (12 : ℕ))⁻¹ := by
      rw [← hmagnitude, ← zpow_natCast, ← zpow_neg]
      exact (magnitude_lt_pow number).trans_le (zpow_le_zpow_right₀ (by norm_num) (by omega))
    have hunits : ⌊number.value * 10 ^ 12⌋₊ = 0 := by
      rw [Nat.floor_eq_zero]
      norm_num at hsmall ⊢
      linarith
    have hwhole : ⌊number.value⌋₊ = 0 := by
      rw [Nat.floor_eq_zero]
      norm_num at hsmall
      linarith
    rw [ofNumeral, if_neg hsign, if_neg (by exact not_le.mpr hhigh), if_pos (by exact hlow)]
    simp [hunits, hwhole]
  · exact ofNumeral_of_inBand ⟨hpos.le, hlow, hhigh⟩

/-! ## Every decimal -/

/-- Only what is out of the range of prices is refused: no step on the way is without result. -/
theorem isRange_of_ofNumeral {fault : Fault} (hfault : ofNumeral number = .error fault) :
    fault.isRange = true := by
  rcases lt_or_ge number.value 0 with hneg | hnonneg
  · rw [ofNumeral, if_pos ((isNegative_iff number).mpr hneg)] at hfault
    cases hfault
    rfl
  by_cases hband : InBand number
  · rw [ofNumeral_of_inBand hband] at hfault
    split at hfault <;> cases hfault
    rfl
  · have hsign : ¬ number.isNegative = true := by
      rw [isNegative_iff]
      exact hnonneg.not_gt
    rw [ofNumeral, if_neg hsign] at hfault
    split_ifs at hfault with hhigh hlow
    · cases hfault
      rfl
    · exact absurd ⟨hnonneg, not_lt.mp hlow, not_le.mp hhigh⟩ hband

/-- No price is above the largest one. -/
theorem le_of_ofNumeral {price : ℕ} (hprice : ofNumeral number = .ok price) :
    price ≤ 2 ^ 128 - 1 := by
  simp only [ofNumeral] at hprice
  split_ifs at hprice with hsign hhigh hlow
  · cases hprice
    exact Nat.zero_le _
  · split at hprice
    · cases hprice
    · split_ifs at hprice with hlarge
      cases hprice
      exact min_le_right _ _

theorem kindName_of_isRange {fault : Fault} (hrange : fault.isRange = true) :
    (PriceBoard.Fault.conversion fault).kindName = "ConversionOverflowError" := by
  cases fault with
  | signal cause => cases hrange
  | _ => rfl

/-- **The price of a decimal.**  A positive decimal `v` whose whole part, in units, fits into 128
bits has the price `⌊v · 10 ^ 12⌋`, at most `2 ^ 128 - 1`; any other positive decimal has none.
What is below zero, infinite or not a number has none either, and whatever has no price is reported
as out of range. -/
theorem ofDecimal_eq_floor :
    (∀ number : Numeral, 0 < number.value →
      ofDecimal (.finite number) =
        if ⌊number.value⌋₊ * 10 ^ 12 ≤ 2 ^ 128 - 1
        then .ok (min ⌊number.value * 10 ^ 12⌋₊ (2 ^ 128 - 1))
        else .error (.tooLarge number)) ∧
    (∀ number : Numeral, number.value < 0 →
      ofDecimal (.finite number) = .error (.negative number)) ∧
    (∀ value : Decimal, value.isFinite = false → ofDecimal value = .error (.notFinite value)) ∧
    ∀ (value : Decimal) (fault : Fault), ofDecimal value = .error fault →
      (PriceBoard.Fault.conversion fault).kindName = "ConversionOverflowError" := by
  refine ⟨fun number hpos => ofNumeral_of_pos hpos, fun number hneg => ?_,
    fun value hinfinite => ?_, fun value fault hfault => kindName_of_isRange ?_⟩
  · rw [ofDecimal, ofNumeral, if_pos ((isNegative_iff number).mpr hneg)]
  · cases value with
    | finite number => cases hinfinite
    | infinity negative => rfl
    | nan negative signaling payload => rfl
  · cases value with
    | finite number => exact isRange_of_ofNumeral hfault
    | infinity negative => cases hfault; rfl
    | nan negative signaling payload => cases hfault; rfl

/-- Just above the largest price the places behind the point no longer count, a coefficient of
thirty digits at `10 ^ (-12)` loses none of them, and what is no price is refused. -/
theorem ofDecimal_eq_floor_at_bounds :
    ofDecimal (.finite ⟨false, 3402823669209384634633746075, -1⟩) = .ok (2 ^ 128 - 1) ∧
    ofDecimal (.finite ⟨false, 199999999999999999999999999999, -41⟩) = .ok 1 ∧
    ofDecimal (.finite ⟨false, 340282366920938463463374608, 0⟩) =
      .error (.tooLarge ⟨false, 340282366920938463463374608, 0⟩) ∧
    ofDecimal (.finite ⟨true, 1, -20⟩) = .error (.negative ⟨true, 1, -20⟩) ∧
    ofDecimal (.nan false true 7) = .error (.notFinite (.nan false true 7)) ∧
    (PriceBoard.Fault.conversion (.notFinite (.nan false true 7))).kindName =
      "ConversionOverflowError" := by
  refine ⟨?_, ?_, ?_, ?_, ?_, ?_⟩
  · rw [ofDecimal_eq_floor.1 _ (by norm_num [value, signedCoefficient])]
    norm_num [value, signedCoefficient]
  · rw [ofDecimal_eq_floor.1 _ (by norm_num [value, signedCoefficient])]
    norm_num [value, signedCoefficient]
  · rw [ofDecimal_eq_floor.1 _ (by norm_num [value, signedCoefficient])]
    norm_num [value, signedCoefficient]
  · exact ofDecimal_eq_floor.2.1 _ (by norm_num [value, signedCoefficient])
  · exact ofDecimal_eq_floor.2.2.1 _ rfl
  · exact ofDecimal_eq_floor.2.2.2 (.nan false true 7) _ rfl

end PriceBoard.FixedPoint
