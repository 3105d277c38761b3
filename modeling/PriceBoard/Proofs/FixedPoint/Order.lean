import PriceBoard.Proofs.FixedPoint

/-!
# Prices follow the order of decimals

The price of a decimal is that of the number it denotes, and a smaller number has no larger price:
if a decimal has a price, then so have all decimals from zero up to it, and theirs are at most that
price (`ofDecimal_mono`).

One kind of numeral is out of line.  The first digit of a zero says nothing about its size, but it
is tested all the same, so a zero that is written with an exponent of 27 or more is refused as too
large: a `DistantZero`.  It breaks the order and the agreement of spellings, and nothing else does.

## Strategy

A zero with a smaller exponent is in the band or below it, where its price is the floor like that of
a positive numeral.  Hence one formula holds of all numerals that are not below zero, apart from the
distant zeros (`ofNumeral_of_nonneg`), and this formula depends on the denoted number only, and
grows with it.
-/

namespace PriceBoard.FixedPoint

open Numeral

variable {number : Numeral}

/-- A zero whose exponent alone is out of the range of the first digit of a price. -/
structure DistantZero (number : Numeral) : Prop where
  zero : number.coefficient = 0
  distant : 27 ≤ number.exponent

theorem adjusted_of_zero (hzero : number.coefficient = 0) : number.adjusted = number.exponent := by
  simp [adjusted, hzero]

theorem value_of_zero (hzero : number.coefficient = 0) : number.value = 0 :=
  (isZero_iff number).mp (by simp [isZero, hzero])

theorem not_distantZero_of_pos (hpos : 0 < number.value) : ¬ DistantZero number :=
  fun hdistant => hpos.ne' (value_of_zero hdistant.zero)

/-- A distant zero is taken for a number that is too large. -/
theorem ofNumeral_of_distantZero (hdistant : DistantZero number) :
    ofNumeral number = .error (.tooLarge number) := by
  have hsign : ¬ number.isNegative = true := by
    rw [isNegative_iff, value_of_zero hdistant.zero]
    exact lt_irrefl 0
  have hhigh : (wholeDigits : ℤ) ≤ number.adjusted := by
    rw [adjusted_of_zero hdistant.zero]
    exact hdistant.distant
  rw [ofNumeral, if_neg hsign, if_pos hhigh]

/-! ## One formula -/

/-- The price of every numeral that is not below zero, apart from the distant zeros. -/
theorem ofNumeral_of_nonneg (hnonneg : 0 ≤ number.value) (hnear : ¬ DistantZero number) :
    ofNumeral number =
      if ⌊number.value⌋₊ * 10 ^ 12 ≤ 2 ^ 128 - 1
      then .ok (min ⌊number.value * 10 ^ 12⌋₊ (2 ^ 128 - 1)) else .error (.tooLarge number) := by
  rcases hnonneg.lt_or_eq with hpos | hzero
  · exact ofNumeral_of_pos hpos
  have hcoefficient : number.coefficient = 0 := by
    simpa [isZero] using (isZero_iff number).mpr hzero.symm
  have hadjusted := adjusted_of_zero hcoefficient
  have hhigh : number.adjusted < 27 := by
    rw [hadjusted]
    by_contra hge
    exact hnear ⟨hcoefficient, not_lt.mp hge⟩
  rcases lt_or_ge number.adjusted (-12) with hlow | hlow
  · have hsign : ¬ number.isNegative = true := by
      rw [isNegative_iff]
      exact hnonneg.not_gt
    rw [ofNumeral, if_neg hsign, if_neg (by exact not_le.mpr hhigh), if_pos (by exact hlow)]
    simp [← hzero]
  · exact ofNumeral_of_inBand ⟨hnonneg, hlow, hhigh⟩

/-- The price of a numeral that is well below the bound is the floor. -/
theorem ofNumeral_of_le (hnonneg : 0 ≤ number.value) (hnear : ¬ DistantZero number)
    (hle : number.value ≤ 10 ^ 26) : ofNumeral number = .ok ⌊number.value * 10 ^ 12⌋₊ := by
  have hwhole : ⌊number.value⌋₊ ≤ 10 ^ 26 := Nat.floor_le_of_le (by exact_mod_cast hle)
  have hunits : ⌊number.value * 10 ^ 12⌋₊ ≤ 10 ^ 38 := by
    refine Nat.floor_le_of_le ?_
    push_cast
    linarith
  rw [ofNumeral_of_nonneg hnonneg hnear, if_pos (by omega), min_eq_left (by omega)]

/-- Whether a numeral has a price depends on the number that it denotes, and the price grows with
this number. -/
theorem exists_le_of_ofNumeral {lower upper : Numeral} {price : ℕ} (hnonneg : 0 ≤ lower.value)
    (hle : lower.value ≤ upper.value) (hnear : ¬ DistantZero lower)
    (hprice : ofNumeral upper = .ok price) :
    ∃ less, ofNumeral lower = .ok less ∧ less ≤ price := by
  have hupper : ¬ DistantZero upper := by
    intro hdistant
    rw [ofNumeral_of_distantZero hdistant] at hprice
    cases hprice
  rw [ofNumeral_of_nonneg (hnonneg.trans hle) hupper] at hprice
  split at hprice
  case isFalse => cases hprice
  case isTrue hwhole =>
    cases hprice
    have hsmaller : ⌊lower.value⌋₊ * 10 ^ 12 ≤ 2 ^ 128 - 1 :=
      (Nat.mul_le_mul_right _ (Nat.floor_le_floor hle)).trans hwhole
    refine ⟨_, by rw [ofNumeral_of_nonneg hnonneg hnear, if_pos hsmaller], ?_⟩
    have hunits : lower.value * 10 ^ 12 ≤ upper.value * 10 ^ 12 :=
      mul_le_mul_of_nonneg_right hle (by norm_num)
    exact min_le_min_right _ (Nat.floor_le_floor hunits)

/-- Of two numerals that have prices the smaller one has the smaller price. -/
theorem le_of_ofNumeral_of_le {lower upper : Numeral} {less price : ℕ} (hnonneg : 0 ≤ lower.value)
    (hle : lower.value ≤ upper.value) (hless : ofNumeral lower = .ok less)
    (hprice : ofNumeral upper = .ok price) : less ≤ price := by
  have hnear : ¬ DistantZero lower := by
    intro hdistant
    cases (ofNumeral_of_distantZero hdistant).symm.trans hless
  obtain ⟨units, hunits, hle⟩ := exists_le_of_ofNumeral hnonneg hle hnear hprice
  cases hunits.symm.trans hless
  exact hle

/-- Two decimals have one price, or are both refused as too large. -/
def FareAlike (first second : Numeral) : Prop :=
  (∃ price, ofDecimal (.finite first) = .ok price ∧ ofDecimal (.finite second) = .ok price) ∨
    (ofDecimal (.finite first) = .error (.tooLarge first) ∧
      ofDecimal (.finite second) = .error (.tooLarge second))

theorem FareAlike.symm {first second : Numeral} (halike : FareAlike first second) :
    FareAlike second first := by
  rcases halike with ⟨price, hfirst, hsecond⟩ | ⟨hfirst, hsecond⟩
  · exact .inl ⟨price, hsecond, hfirst⟩
  · exact .inr ⟨hsecond, hfirst⟩

theorem fareAlike_of_near {first second : Numeral} (hnonneg : 0 ≤ first.value)
    (hvalue : first.value = second.value) (hfirst : ¬ DistantZero first)
    (hsecond : ¬ DistantZero second) : FareAlike first second := by
  unfold FareAlike
  simp only [ofDecimal, ofNumeral_of_nonneg hnonneg hfirst,
    ofNumeral_of_nonneg (hvalue ▸ hnonneg) hsecond, ← hvalue]
  split
  · exact .inl ⟨_, rfl, rfl⟩
  · exact .inr ⟨rfl, rfl⟩

/-- Any other zero has a price, so a distant zero fares like distant zeros only. -/
theorem distantZero_of_fareAlike {first second : Numeral} (hvalue : first.value = second.value)
    (halike : FareAlike first second) (hdistant : DistantZero first) : DistantZero second := by
  by_contra hnear
  have hzero : second.value = 0 := hvalue.symm.trans (value_of_zero hdistant.zero)
  have hprice : ofNumeral second = .ok ⌊second.value * 10 ^ 12⌋₊ :=
    ofNumeral_of_le hzero.ge hnear (by rw [hzero]; norm_num)
  rcases halike with ⟨price, hfirst, -⟩ | ⟨-, hsecond⟩
  · cases (ofNumeral_of_distantZero hdistant).symm.trans hfirst
  · cases hprice.symm.trans hsecond

/-! ## The order of prices -/

/-- **Prices are monotone, apart from distant zeros.**  If a decimal has a price, then a decimal
between zero and it has a price that is at most as large, unless it is a distant zero.  Decimals for
one number fare alike, however they are written, unless just one of them is a distant zero. -/
theorem ofDecimal_mono (lower upper : Numeral) (hnonneg : 0 ≤ lower.value)
    (hle : lower.value ≤ upper.value) :
    (∀ price, ofDecimal (.finite upper) = .ok price →
      ((∃ less, ofDecimal (.finite lower) = .ok less ∧ less ≤ price) ↔ ¬ DistantZero lower)) ∧
    (lower.value = upper.value →
      (FareAlike lower upper ↔ (DistantZero lower ↔ DistantZero upper))) := by
  refine ⟨fun price hprice => ⟨?_, fun hnear => ?_⟩,
    fun hvalue => ⟨fun halike => ?_, fun hsame => ?_⟩⟩
  · rintro ⟨less, hless, -⟩ hdistant
    cases (ofNumeral_of_distantZero hdistant).symm.trans hless
  · exact exists_le_of_ofNumeral hnonneg hle hnear hprice
  · exact ⟨distantZero_of_fareAlike hvalue halike,
      distantZero_of_fareAlike hvalue.symm halike.symm⟩
  · by_cases hdistant : DistantZero lower
    · exact .inr ⟨ofNumeral_of_distantZero hdistant,
        ofNumeral_of_distantZero (hsame.mp hdistant)⟩
    · exact fareAlike_of_near hnonneg hvalue hdistant (mt hsame.mpr hdistant)

/-- `1.5` is a spelling of `1.50`, and has its price; `0E+27` is a spelling of `0`, but the price of
`0` is not for it. -/
theorem ofDecimal_mono_of_spellings :
    FareAlike ⟨false, 15, -1⟩ ⟨false, 150, -2⟩ ∧
      (∃ less, ofDecimal (.finite ⟨false, 15, -1⟩) = .ok less ∧ less ≤ 1500000000000) ∧
      Numeral.value ⟨false, 0, 27⟩ = Numeral.value .zero ∧ ofDecimal (.finite .zero) = .ok 0 ∧
      ¬ ∃ less, ofDecimal (.finite ⟨false, 0, 27⟩) = .ok less ∧ less ≤ 0 := by
  have hvalue : Numeral.value ⟨false, 15, -1⟩ = Numeral.value ⟨false, 150, -2⟩ := by
    norm_num [value, signedCoefficient]
  have hpos : 0 < Numeral.value ⟨false, 15, -1⟩ := by
    norm_num [value, signedCoefficient]
  have hlower := not_distantZero_of_pos hpos
  have hupper := not_distantZero_of_pos (hvalue ▸ hpos)
  have hspellings := ofDecimal_mono ⟨false, 15, -1⟩ ⟨false, 150, -2⟩ hpos.le hvalue.le
  have hzero : Numeral.value ⟨false, 0, 27⟩ = Numeral.value .zero := by
    rw [value_of_zero rfl, value_of_zero rfl]
  have hprice : ofDecimal (.finite .zero) = .ok 0 := by decide +kernel
  have hzeros := ofDecimal_mono ⟨false, 0, 27⟩ .zero (value_of_zero rfl).ge hzero.le
  exact ⟨(hspellings.2 hvalue).mpr (iff_of_false hlower hupper),
    (hspellings.1 _ (by decide +kernel)).mpr hlower, hzero, hprice,
    fun hexists => (hzeros.1 0 hprice).mp hexists ⟨rfl, le_rfl⟩⟩

end PriceBoard.FixedPoint
