import PriceBoard.Pipeline
import PriceBoard.Proofs.Decimal.Arithmetic
import PriceBoard.Proofs.FixedPoint.Order
import PriceBoard.Proofs.Source.Custom

/-!
# Cross rates, unit by unit

A cross rate is computed with the digits of the working precision and then cut to the places of a
price.  Rounding up and cutting off could give a unit too much.  It does not, for market prices that
are written with a moderate number of places: without a reduction the published price is the floor
of the exact one (`units_of_inverse`), and with a reduction of five hundredths of a percent it is
the floor or, if the exact price is a whole number of units, possibly a unit less
(`units_of_reduced`).

## Strategy

If the market price is `k` units of its last place, then the exact price, in units of its own, is
`n / k` for a number `n` that is the same for all market prices, and so it is `1 / k` away from the
next whole number, unless it is one.  All the roundings together are off by a fixed share of the
price, which is less than `1 / k` (`units_of_near`).  A single rounding does not go below a whole
number of units either, for these are among the numbers with so many digits: this is why no unit is
missing without a reduction (`floor_rounded_inverse`).

This needs the digits of the working precision, and numbers far below `10 ^ (-999999)` lose them.
But long before that the price is less than a unit, and what it is rounded to is as well.
-/

namespace PriceBoard.Custom.CrossRate

open Numeral FixedPoint

variable {ε : Type} {rate : CrossRate} {ticker : String → Outcome ε Decimal}
  {market inverse price : Numeral} {total count : ℕ} {near : ℚ}

/-! ## Near a ratio -/

/-- A price in whole units: the exact one cut off, where a unit may be missing if nothing had to be
cut off. -/
structure FloorOrLess (units : ℕ) (exact : ℚ) : Prop where
  le : (units : ℚ) ≤ exact
  floor : (∀ whole : ℤ, exact ≠ whole) → units = ⌊exact⌋₊
  whole : ∀ whole : ℤ, exact = whole → (units : ℤ) = whole ∨ (units : ℤ) = whole - 1

/-- A number that is above a ratio by less than one part does not reach the next whole number. -/
theorem floor_mul_le (hcount : 0 < count) (hnonneg : 0 ≤ near)
    (hhigh : near < ((total : ℚ) + 1) / count) : ⌊near⌋₊ * count ≤ total := by
  have hpos : (0 : ℚ) < count := by exact_mod_cast hcount
  have hfloor : (⌊near⌋₊ : ℚ) * count < total + 1 :=
    (mul_le_mul_of_nonneg_right (Nat.floor_le hnonneg) hpos.le).trans_lt
      ((lt_div_iff₀ hpos).mp hhigh)
  exact Nat.le_of_lt_succ (by exact_mod_cast hfloor)

/-- A number that is less than one part away from a ratio has its floor, unless it is just below a
whole one. -/
theorem units_of_near (hcount : 0 < count) (htotal : 0 < total)
    (hlow : ((total : ℚ) - 1) / count ≤ near) (hhigh : near < ((total : ℚ) + 1) / count) :
    FloorOrLess ⌊near⌋₊ (total / count) := by
  have hpos : (0 : ℚ) < count := by exact_mod_cast hcount
  have hone : (1 : ℚ) ≤ total := by exact_mod_cast htotal
  have hnonneg : 0 ≤ near := (div_nonneg (by linarith) hpos.le).trans hlow
  have hupper : ⌊near⌋₊ * count ≤ total := floor_mul_le hcount hnonneg hhigh
  have hlower : total ≤ (⌊near⌋₊ + 1) * count := by
    have hnext : ((total : ℚ) - 1) < (⌊near⌋₊ + 1) * count :=
      (div_lt_iff₀ hpos).mp (hlow.trans_lt (Nat.lt_floor_add_one near))
    have hcast : (total : ℚ) < ((⌊near⌋₊ + 1) * count + 1 : ℕ) := by
      push_cast
      linarith
    exact Nat.le_of_lt_succ (by exact_mod_cast hcast)
  refine ⟨?_, fun hfraction => ?_, fun whole hwhole => ?_⟩
  · rw [le_div_iff₀ hpos]
    exact_mod_cast hupper
  · -- the ratio is not the next whole number, so it is below it
    have hne : total ≠ (⌊near⌋₊ + 1) * count := by
      intro heq
      refine hfraction (⌊near⌋₊ + 1 : ℕ) ?_
      rw [div_eq_iff hpos.ne', Int.cast_natCast]
      exact_mod_cast heq
    rw [Nat.floor_div_eq_div]
    refine (Nat.div_eq_of_lt_le hupper ?_).symm
    exact lt_of_le_of_ne hlower hne
  · have htotal : (total : ℤ) = whole * count := by
      rw [div_eq_iff hpos.ne'] at hwhole
      exact_mod_cast hwhole
    have hcount : (0 : ℤ) < count := by exact_mod_cast hcount
    have hle : (⌊near⌋₊ : ℤ) ≤ whole := by
      refine le_of_mul_le_mul_right ?_ hcount
      rw [← htotal]
      exact_mod_cast hupper
    have hge : whole ≤ (⌊near⌋₊ : ℤ) + 1 := by
      refine le_of_mul_le_mul_right ?_ hcount
      rw [← htotal]
      exact_mod_cast hlower
    omega

/-- Less than a unit is cut off entirely. -/
theorem units_of_lt_one {exact : ℚ} (hpos : 0 < exact) (hexact : exact < 1) (hnear : near < 1) :
    FloorOrLess ⌊near⌋₊ exact := by
  have hunits : ⌊near⌋₊ = 0 := Nat.floor_eq_zero.mpr hnear
  rw [hunits]
  refine ⟨by exact_mod_cast hpos.le, fun _ => (Nat.floor_eq_zero.mpr hexact).symm,
    fun whole hwhole => ?_⟩
  rw [hwhole] at hpos hexact
  have hlow : 0 < whole := by exact_mod_cast hpos
  have hhigh : whole < 1 := by exact_mod_cast hexact
  omega

/-- So many units of its last place are in the market price. -/
theorem exists_count (hpos : 0 < market.value) {places : ℕ}
    (hunits : ∃ units : ℤ, market.value = units / 10 ^ places) :
    ∃ count : ℕ, 0 < count ∧ market.value = count / 10 ^ places := by
  obtain ⟨units, hvalue⟩ := hunits
  have hunits : 0 < units := by
    rw [hvalue] at hpos
    exact_mod_cast (div_pos_iff_of_pos_right (by positivity)).mp hpos
  obtain ⟨count, rfl⟩ := Int.eq_ofNat_of_zero_le hunits.le
  exact ⟨count, by omega, by rw [hvalue, Int.cast_natCast]⟩

/-! ## The feed -/

theorem reciprocal_of_div (hpos : 0 < market.value) (hinverse : one.div market = .ok inverse) :
    (Decimal.finite market).reciprocal = .ok (.finite inverse) := by
  have hzero : ¬ market.isZero = true := by
    rw [isZero_iff]
    exact hpos.ne'
  rw [Decimal.reciprocal, if_neg hzero]
  simp only [hinverse]

/-- The feed quotes what becomes of the inverse of the market price. -/
theorem result_feed (hticker : (ticker rate.market).result = .ok (.finite market))
    (hpos : 0 < market.value) (hinverse : one.div market = .ok inverse)
    (hafter : rate.afterReduction (.finite inverse) = .ok (.finite price)) (now : ℤ)
    (asset : Asset) :
    ((rate.feed ticker now).quotation asset).result =
      .ok ⟨rate.symbol, rate.symbol, some rate.blockchain, price, .zero, now⟩ := by
  have hresult : (rate.inverse (.finite market) : Outcome ε Decimal).result =
      .ok (.finite inverse) := by
    rw [CrossRate.inverse, reciprocal_of_div hpos hinverse]
    rfl
  have hchanged : (Outcome.ofExcept ((rate.afterReduction (.finite inverse)).mapError .decimal) :
      Outcome ε Decimal).result = .ok (.finite price) := by
    rw [hafter]
    rfl
  have hquote : quote rate.blockchain rate.symbol (.finite price) now =
      .ok ⟨rate.symbol, rate.symbol, some rate.blockchain, price, .zero, now⟩ :=
    Quotation.report_of_finite rate.blockchain rate.symbol rfl rfl now
  simp only [feed]
  rw [Outcome.result_bind_ok hticker, Outcome.result_bind_ok hresult,
    Outcome.result_bind_ok hchanged]
  exact hquote

/-! ## The inverse -/

theorem magnitude_one : one.magnitude = 1 := by
  norm_num [one, magnitude]

/-- The inverse of a market price that is not too small is rounded once. -/
theorem exists_inverse (hpos : 0 < market.value) {exponent : ℤ}
    (hbottom : bottomExponent precision ≤ exponent) (htop : exponent ≤ topAdjusted)
    (hle : 1 / market.value ≤ 10 ^ exponent) :
    ∃ inverse, one.div market = .ok inverse ∧ inverse.negative = false ∧
      inverse.value = rounded precision (1 / market.value) ∧
      (inverse.coefficient = 0 → inverse.exponent = bottomExponent precision) := by
  have hsign : market.negative = false := negative_of_pos hpos
  have hmagnitude : market.magnitude = market.value := magnitude_eq_value hpos.le
  have hrounds := div_rounds one ((magnitude_pos_iff market).mp (hmagnitude ▸ hpos))
  rw [magnitude_one, hmagnitude, hsign] at hrounds
  obtain ⟨inverse, hinverse, hpositive, hrounded, -, hzero⟩ :=
    hrounds.exists_of_le precision_pos (by positivity) hbottom htop hle
  refine ⟨inverse, hinverse, hpositive, ?_, hzero (by positivity)⟩
  rw [value_eq_magnitude hpositive, hrounded]

/-- A result below one has places: what is left of it is no whole number of tens, and if nothing is
left, it is written at the end of the working range. -/
theorem exponent_nonpos
    (hzero : inverse.coefficient = 0 → inverse.exponent = bottomExponent precision)
    (hone : inverse.magnitude < 1) : inverse.exponent ≤ 0 := by
  rcases eq_or_ne inverse.coefficient 0 with hnone | hsome
  · rw [hzero hnone]
    decide
  · have hlow := pow_adjusted_le_magnitude hsome
    have hadjusted : inverse.adjusted < 0 := by
      rw [← zpow_lt_zpow_iff_right₀ (show (1 : ℚ) < 10 by norm_num), zpow_zero]
      exact hlow.trans_lt hone
    have hcount := digitCount_pos inverse.coefficient
    unfold adjusted at hadjusted
    omega

/-! ## The reduction -/

theorem reduced_eq_ok {reduction product share rest : Numeral}
    (hproduct : price.mul reduction = .ok product)
    (hshare : product.div wholeReduction = .ok share) (hrest : price.sub share = .ok rest) :
    reduced reduction price = .ok rest.clampNegative := by
  simp only [reduced, hproduct, hshare, hrest, bind, Except.bind]
  rfl

theorem magnitude_five : (Numeral.ofInt 5).magnitude = 5 := by
  norm_num [Numeral.ofInt, magnitude]

theorem magnitude_wholeReduction : wholeReduction.magnitude = 10000 := by
  norm_num [wholeReduction, Numeral.ofInt, magnitude]

/-- A reduction by five hundredths of a percent is off by less than two halves of a unit. -/
theorem exists_reduced_near (hsign : price.negative = false)
    (hlow : (10 : ℚ) ^ (-20 : ℤ) ≤ price.value) (hhigh : price.value ≤ 10 ^ (20 : ℤ)) :
    ∃ rest, reduced (.ofInt 5) price = .ok rest ∧ 0 < rest.value ∧
      |rest.value - price.value * (9995 / 10000)| ≤ price.value * (2 / (2 * 10 ^ 27)) := by
  have hvalue := value_eq_magnitude hsign
  norm_num at hlow hhigh
  -- five times the price
  have hproduct := mul_rounds price (.ofInt 5)
  rw [hsign, magnitude_five, ← hvalue] at hproduct
  obtain ⟨product, hproduct, hproductSign, hproductNear⟩ :=
    hproduct.exists_near (by norm_num; linarith) (by norm_num; linarith)
  rw [abs_le] at hproductNear
  -- one part in ten thousand of it
  have hshare := div_rounds product (show wholeReduction.coefficient ≠ 0 by decide)
  rw [hproductSign, magnitude_wholeReduction] at hshare
  obtain ⟨share, hshare, hshareSign, hshareNear⟩ :=
    hshare.exists_near (by norm_num; linarith) (by norm_num; linarith)
  rw [abs_le, ← value_eq_magnitude hshareSign] at hshareNear
  -- what is left
  have hrest := sub_rounds price share
  rw [abs_of_nonneg (by linarith), negative_of_pos (by rw [value_difference]; linarith)] at hrest
  obtain ⟨rest, hrest, hrestSign, hrestNear⟩ :=
    hrest.exists_near (by norm_num; linarith) (by norm_num; linarith)
  rw [abs_le, ← value_eq_magnitude hrestSign] at hrestNear
  have hpos : 0 < rest.value := by linarith
  have hclamped : rest.clampNegative.value = rest.value := by
    rw [value_clampNegative, max_eq_left hpos.le]
  refine ⟨rest.clampNegative, reduced_eq_ok hproduct hshare hrest, by rwa [hclamped], ?_⟩
  rw [hclamped, abs_le]
  constructor <;> linarith

/-- Clamping writes the zero without places. -/
theorem not_distantZero_clampNegative (hexponent : price.coefficient = 0 → price.exponent ≤ 0) :
    ¬ DistantZero price.clampNegative := by
  rintro ⟨hzero, hdistant⟩
  unfold clampNegative at hzero hdistant
  split_ifs at hzero hdistant with hnegative
  · norm_num [Numeral.zero] at hdistant
  · have := hexponent hzero
    omega

/-- What is far below a unit stays there. -/
theorem exists_reduced_tiny (hsign : price.negative = false)
    (hle : price.value ≤ 10 ^ (-18 : ℤ)) (hexponent : price.exponent ≤ 0) :
    ∃ rest, reduced (.ofInt 5) price = .ok rest ∧ 0 ≤ rest.value ∧
      rest.value ≤ 10 ^ (-18 : ℤ) ∧ ¬ DistantZero rest := by
  have hvalue := value_eq_magnitude hsign
  have hnonneg := magnitude_nonneg price
  rw [← hvalue] at hnonneg
  -- five times the price
  have hfive : price.magnitude * (Numeral.ofInt 5).magnitude ≤ 10 ^ (-17 : ℤ) := by
    rw [magnitude_five, ← hvalue]
    norm_num at hle ⊢
    linarith
  obtain ⟨product, hproduct, hproductSign, -, hproductLe, -⟩ :=
    (mul_rounds price (.ofInt 5)).exists_of_le precision_pos
      (mul_nonneg (magnitude_nonneg _) (magnitude_nonneg _)) (by decide) (by decide) hfive
  -- one part in ten thousand of it
  have hpart : product.magnitude / wholeReduction.magnitude ≤ 10 ^ (-18 : ℤ) := by
    rw [magnitude_wholeReduction]
    norm_num at hproductLe ⊢
    linarith
  obtain ⟨share, hshare, hshareSign, -, hshareLe, -⟩ :=
    (div_rounds product (show wholeReduction.coefficient ≠ 0 by decide)).exists_of_le
      precision_pos (div_nonneg (magnitude_nonneg _) (magnitude_nonneg _)) (by decide) (by decide)
      hpart
  have hshareValue : share.value = share.magnitude := by
    refine value_eq_magnitude ?_
    rw [hshareSign, hproductSign, hsign]
    rfl
  have hshareNonneg := magnitude_nonneg share
  -- what is left
  have hleft : |price.value - share.value| ≤ 10 ^ (-18 : ℤ) := by
    rw [hshareValue, abs_le]
    constructor <;> linarith
  obtain ⟨rest, hrest, -, -, hrestLe, -⟩ :=
    (sub_rounds price share).exists_of_le precision_pos (abs_nonneg _) (by decide) (by decide) hleft
  refine ⟨rest.clampNegative, reduced_eq_ok hproduct hshare hrest, ?_, ?_,
    not_distantZero_clampNegative fun hzero => ?_⟩
  · rw [value_clampNegative]
    exact le_max_right _ _
  · rw [magnitude_eq_abs, abs_le] at hrestLe
    rw [value_clampNegative]
    exact max_le hrestLe.2 (by positivity)
  · exact (exponent_sub_of_zero hrest hzero).trans (max_le hexponent (by decide))

/-! ## Without a reduction -/

/-- Rounding the inverse of so many units of `10 ^ (-15)` is not seen in its units. -/
theorem floor_rounded_inverse (hcount : 0 < count) :
    ⌊rounded precision (10 ^ 15 / count) * 10 ^ 12⌋₊ = 10 ^ 27 / count := by
  have hpos : (0 : ℚ) < count := by exact_mod_cast hcount
  have hinverse : (0 : ℚ) < 10 ^ 15 / count := by positivity
  have hnonneg := rounded_nonneg precision (10 ^ 15 / count)
  refine le_antisymm ?_ (Nat.le_floor ?_)
  · rcases le_or_gt ((10 : ℚ) ^ (-30 : ℤ)) (10 ^ 15 / count) with hlow | htiny
    · have hnear : |rounded precision (10 ^ 15 / count) - 10 ^ 15 / (count : ℚ)| ≤
          10 ^ 15 / (count : ℚ) * (1 / (2 * 10 ^ 27)) :=
        abs_rounded_sub_le_mul precision_pos (by decide) hlow
      have hhigh : rounded precision (10 ^ 15 / count) * 10 ^ 12 <
          ((10 ^ 27 : ℕ) + 1 : ℚ) / count := by
        calc rounded precision (10 ^ 15 / count) * 10 ^ 12
            ≤ (10 ^ 15 / count + 10 ^ 15 / count * (1 / (2 * 10 ^ 27))) * 10 ^ 12 :=
              mul_le_mul_of_nonneg_right (by linarith [(abs_le.mp hnear).2]) (by norm_num)
          _ = (10 ^ 27 + 1 / 2) / count := by ring
          _ < ((10 ^ 27 : ℕ) + 1 : ℚ) / count := by
              refine div_lt_div_of_pos_right ?_ hpos
              norm_num
      exact (Nat.le_div_iff_mul_le hcount).mpr
        (floor_mul_le hcount (mul_nonneg hnonneg (by norm_num)) hhigh)
    · -- a price that far below a unit is cut off
      have hrounded : rounded precision (10 ^ 15 / count) ≤ 10 ^ (-30 : ℤ) :=
        rounded_le_pow precision_pos hinverse.le (by decide) htiny.le
      have hunits : ⌊rounded precision (10 ^ 15 / count) * 10 ^ 12⌋₊ = 0 := by
        rw [Nat.floor_eq_zero]
        norm_num at hrounded
        linarith
      rw [hunits]
      exact Nat.zero_le _
  · -- the floor has the places of a price, and rounding keeps more
    have hgrid : ((10 ^ 27 / count : ℕ) : ℚ) * 10 ^ (-12 : ℤ) ≤ 10 ^ 15 / count := by
      have hfloor : ((10 ^ 27 / count : ℕ) : ℚ) * count ≤ 10 ^ 27 := by
        exact_mod_cast Nat.div_mul_le_self (10 ^ 27) count
      rw [le_div_iff₀ hpos]
      norm_num at hfloor ⊢
      linarith
    have hone : (1 : ℚ) ≤ count := by exact_mod_cast hcount
    have hlast : lastExponent precision (10 ^ 15 / count) ≤ -12 :=
      lastExponent_le hinverse (by decide) (div_le_self (by norm_num) hone)
    have hkept := le_rounded hlast hgrid
    norm_num at hkept
    linarith

/-- **Nothing is lost to rounding twice.**  For a market price of fifteen places at most, the feed
of a cross rate without a reduction quotes the inverse of the market price with the digits of the
working precision, and its price is the floor of the exact inverse. -/
theorem units_of_inverse (rate : CrossRate) (ticker : String → Outcome ε Decimal)
    (hreduction : rate.reduction.isZero = true)
    (hticker : (ticker rate.market).result = .ok (.finite market)) (hpos : 0 < market.value)
    (hunits : ∃ units : ℤ, market.value = units / 10 ^ 15) (now : ℤ) (asset : Asset) :
    ∃ quotation, ((rate.feed ticker now).quotation asset).result = .ok quotation ∧
      quotation.price.value = rounded precision (1 / market.value) ∧
      ofDecimal (.finite quotation.price) = .ok ⌊10 ^ 12 / market.value⌋₊ := by
  obtain ⟨count, hcount, hmarket⟩ := exists_count hpos hunits
  have hexact : 1 / market.value = 10 ^ 15 / count := by
    rw [hmarket, one_div_div]
  have hone : (1 : ℚ) ≤ count := by exact_mod_cast hcount
  have hhigh : 1 / market.value ≤ 10 ^ (15 : ℤ) := by
    rw [hexact]
    exact div_le_self (by norm_num) hone
  obtain ⟨inverse, hinverse, -, hvalue, hzero⟩ := exists_inverse hpos (by decide) (by decide) hhigh
  have hafter : rate.afterReduction (.finite inverse) = .ok (.finite inverse) := by
    rw [CrossRate.afterReduction, if_pos hreduction]
  refine ⟨_, result_feed hticker hpos hinverse hafter now asset, hvalue, ?_⟩
  have hnear : ¬ DistantZero inverse := by
    rintro ⟨hcoefficient, hdistant⟩
    rw [hzero hcoefficient] at hdistant
    exact absurd hdistant (by decide)
  have hrounded : inverse.value ≤ 10 ^ (15 : ℤ) := by
    rw [hvalue]
    exact rounded_le_pow precision_pos (one_div_pos.mpr hpos).le (by decide) hhigh
  have hle : inverse.value ≤ 10 ^ 26 := by
    norm_num at hrounded ⊢
    linarith
  have hnonneg : 0 ≤ inverse.value := hvalue ▸ rounded_nonneg _ _
  have hfloor : ⌊10 ^ 12 / market.value⌋₊ = 10 ^ 27 / count := by
    rw [← Nat.floor_div_eq_div (K := ℚ), hmarket, div_div_eq_mul_div]
    norm_num
  calc ofDecimal (.finite inverse) = .ok ⌊inverse.value * 10 ^ 12⌋₊ :=
        ofNumeral_of_le hnonneg hnear hle
    _ = .ok ⌊10 ^ 12 / market.value⌋₊ := by
        rw [hvalue, hexact, floor_rounded_inverse hcount, hfloor]

/-- Markets in which the price is always the same. -/
def constantTicker (market : Numeral) : String → Outcome Empty Decimal :=
  fun _ => Outcome.done (.finite market)

/-- The inverse of `1.5` is rounded up, and its price is two thirds of `10 ^ 12`, cut off. -/
theorem units_of_inverse_two_thirds :
    ∃ quotation, ((Pipeline.arsRate.feed (constantTicker ⟨false, 15, -1⟩) 1700000000).quotation
        ⟨"FIAT", "ARS-USD"⟩).result = .ok quotation ∧
      rounded precision (2 / 3) = quotation.price.value ∧
      ofDecimal (.finite quotation.price) = .ok 666666666666 := by
  have hmarket : Numeral.value ⟨false, 15, -1⟩ = 3 / 2 := by
    norm_num [value, signedCoefficient]
  obtain ⟨quotation, hquotation, hvalue, hprice⟩ :=
    units_of_inverse Pipeline.arsRate (constantTicker ⟨false, 15, -1⟩) rfl rfl
      (by norm_num [hmarket]) ⟨1500000000000000, by norm_num [hmarket]⟩ 1700000000
      ⟨"FIAT", "ARS-USD"⟩
  rw [hmarket, one_div_div] at hvalue
  refine ⟨quotation, hquotation, hvalue.symm, ?_⟩
  rw [hprice, hmarket]
  norm_num

/-! ## With a reduction -/

/-- The inverse of so many units of `10 ^ (-12)`, reduced, if it is not too small. -/
theorem units_of_reduced_near (hcount : 0 < count) (hsign : inverse.negative = false)
    (hvalue : inverse.value = rounded precision (10 ^ 12 / count))
    (hlow : (10 : ℚ) ^ (-18 : ℤ) ≤ 10 ^ 12 / count) :
    ∃ rest units, reduced (.ofInt 5) inverse = .ok rest ∧ ofNumeral rest = .ok units ∧
      FloorOrLess units (((9995 * 10 ^ 20 : ℕ) : ℚ) / count) := by
  have hpos : (0 : ℚ) < count := by exact_mod_cast hcount
  have hone : (1 : ℚ) ≤ count := by exact_mod_cast hcount
  generalize hexact : (10 ^ 12 / count : ℚ) = exact at hvalue hlow
  have hhigh : exact ≤ 10 ^ 12 := hexact ▸ div_le_self (by norm_num) hone
  have hinverse : |inverse.value - exact| ≤ exact * (1 / (2 * 10 ^ 27)) := by
    rw [hvalue]
    exact abs_rounded_sub_le_mul precision_pos (by decide) hlow
  rw [abs_le] at hinverse
  norm_num at hlow
  obtain ⟨rest, hrest, hrestPos, hrestNear⟩ := exists_reduced_near hsign
    (by norm_num; linarith) (by norm_num; linarith)
  rw [abs_le] at hrestNear
  have hnear := not_distantZero_of_pos hrestPos
  -- three halves of a unit of the 28th digit, times the count, are far less than one
  have hlower : exact * (9995 / 10000 - 3 / (2 * 10 ^ 27)) ≤ rest.value := by linarith
  have hupper : rest.value ≤ exact * (9995 / 10000 + 3 / (2 * 10 ^ 27)) := by linarith
  have hscale : exact * count = 10 ^ 12 := by
    rw [← hexact, div_mul_cancel₀ _ hpos.ne']
  have hbelow : (((9995 * 10 ^ 20 : ℕ) : ℚ) - 1) / count ≤ rest.value * 10 ^ 12 := by
    rw [div_le_iff₀ hpos]
    push_cast
    linarith [mul_le_mul_of_nonneg_right hlower hpos.le]
  have habove : rest.value * 10 ^ 12 < (((9995 * 10 ^ 20 : ℕ) : ℚ) + 1) / count := by
    rw [lt_div_iff₀ hpos]
    push_cast
    linarith [mul_le_mul_of_nonneg_right hupper hpos.le]
  refine ⟨rest, ⌊rest.value * 10 ^ 12⌋₊, hrest, ofNumeral_of_le hrestPos.le hnear (by linarith), ?_⟩
  exact units_of_near hcount (by norm_num) hbelow habove

/-- The inverse of so many units of `10 ^ (-12)`, reduced, if it is far below a unit. -/
theorem units_of_reduced_tiny (hcount : 0 < count) (hsign : inverse.negative = false)
    (hvalue : inverse.value = rounded precision (10 ^ 12 / count))
    (hzero : inverse.coefficient = 0 → inverse.exponent = bottomExponent precision)
    (hhigh : 10 ^ 12 / count ≤ (10 : ℚ) ^ (-18 : ℤ)) :
    ∃ rest units, reduced (.ofInt 5) inverse = .ok rest ∧ ofNumeral rest = .ok units ∧
      FloorOrLess units (((9995 * 10 ^ 20 : ℕ) : ℚ) / count) := by
  have hpos : (0 : ℚ) < count := by exact_mod_cast hcount
  have hinverse : inverse.value ≤ 10 ^ (-18 : ℤ) := by
    rw [hvalue]
    exact rounded_le_pow precision_pos (by positivity) (by decide) hhigh
  have hexponent : inverse.exponent ≤ 0 := by
    refine exponent_nonpos hzero ?_
    rw [← value_eq_magnitude hsign]
    norm_num at hinverse
    linarith
  obtain ⟨rest, hrest, hnonneg, hle, hnear⟩ := exists_reduced_tiny hsign hinverse hexponent
  norm_num at hle
  refine ⟨rest, ⌊rest.value * 10 ^ 12⌋₊, hrest, ofNumeral_of_le hnonneg hnear (by linarith),
    units_of_lt_one (by positivity) ?_ (by linarith)⟩
  rw [div_le_iff₀ hpos] at hhigh
  norm_num at hhigh
  rw [div_lt_iff₀ hpos]
  push_cast
  linarith

/-- **A unit is missing at ties only.**  For a market price of twelve places at most, the price of a
cross rate that is reduced by five hundredths of a percent is not above the exact one: it is the
exact one cut off, and a unit less is possible only if nothing has to be cut off. -/
theorem units_of_reduced (rate : CrossRate) (ticker : String → Outcome ε Decimal)
    (hreduction : rate.reduction = .ofInt 5)
    (hticker : (ticker rate.market).result = .ok (.finite market)) (hpos : 0 < market.value)
    (hunits : ∃ units : ℤ, market.value = units / 10 ^ 12) (now : ℤ) (asset : Asset) :
    ∃ quotation units, ((rate.feed ticker now).quotation asset).result = .ok quotation ∧
      ofDecimal (.finite quotation.price) = .ok units ∧
      FloorOrLess units (9995 * 10 ^ 8 / market.value) := by
  obtain ⟨count, hcount, hmarket⟩ := exists_count hpos hunits
  have hexact : 1 / market.value = 10 ^ 12 / count := by
    rw [hmarket, one_div_div]
  have hone : (1 : ℚ) ≤ count := by exact_mod_cast hcount
  have hhigh : 1 / market.value ≤ 10 ^ (12 : ℤ) := by
    rw [hexact]
    exact div_le_self (by norm_num) hone
  obtain ⟨inverse, hinverse, hsign, hvalue, hzero⟩ :=
    exists_inverse hpos (by decide) (by decide) hhigh
  rw [hexact] at hvalue
  have hreduced : ∃ rest units, reduced (.ofInt 5) inverse = .ok rest ∧
      ofNumeral rest = .ok units ∧ FloorOrLess units (((9995 * 10 ^ 20 : ℕ) : ℚ) / count) := by
    rcases le_total ((10 : ℚ) ^ (-18 : ℤ)) (10 ^ 12 / count) with hlow | htiny
    · exact units_of_reduced_near hcount hsign hvalue hlow
    · exact units_of_reduced_tiny hcount hsign hvalue hzero htiny
  obtain ⟨rest, units, hrest, hprice, hfloor⟩ := hreduced
  have hafter : rate.afterReduction (.finite inverse) = .ok (.finite rest) := by
    simp only [CrossRate.afterReduction, hreduction, hrest]
    rfl
  refine ⟨_, units, result_feed hticker hpos hinverse hafter now asset, hprice, ?_⟩
  have htotal : (9995 * 10 ^ 8 / market.value : ℚ) = ((9995 * 10 ^ 20 : ℕ) : ℚ) / count := by
    rw [hmarket, div_div_eq_mul_div]
    norm_num
  rwa [htotal]

/-- The exact price of `9.995`, reduced, is `10 ^ 11` units, and one of them is missing. -/
theorem units_of_reduced_tie :
    ∃ quotation, ((Pipeline.brlRate.feed (constantTicker ⟨false, 9995, -3⟩) 1700000000).quotation
        ⟨"FIAT", "BRL-USD"⟩).result = .ok quotation ∧
      ofDecimal (.finite quotation.price) = .ok 99999999999 ∧
      FloorOrLess 99999999999 (10 ^ 11) := by
  have hmarket : Numeral.value ⟨false, 9995, -3⟩ = 9995 / 1000 := by
    norm_num [value, signedCoefficient]
  have hpos : 0 < Numeral.value ⟨false, 9995, -3⟩ := by norm_num [hmarket]
  obtain ⟨quotation, units, hquotation, hprice, hfloor⟩ :=
    units_of_reduced Pipeline.brlRate (constantTicker ⟨false, 9995, -3⟩) rfl rfl hpos
      ⟨9995000000000, by norm_num [hmarket]⟩ 1700000000 ⟨"FIAT", "BRL-USD"⟩
  have hinverse : one.div ⟨false, 9995, -3⟩ =
      .ok ⟨false, 1000500250125062531265632816, -28⟩ := by decide +kernel
  have hreduced : reduced (.ofInt 5) ⟨false, 1000500250125062531265632816, -28⟩ =
      .ok ⟨false, 9999999999999999999999999996, -29⟩ := by decide +kernel
  have hafter : Pipeline.brlRate.afterReduction
      (.finite ⟨false, 1000500250125062531265632816, -28⟩) =
        .ok (.finite ⟨false, 9999999999999999999999999996, -29⟩) := by
    simp only [CrossRate.afterReduction, Pipeline.brlRate, hreduced]
    rfl
  have hticker : (constantTicker ⟨false, 9995, -3⟩ Pipeline.brlRate.market).result =
      .ok (.finite ⟨false, 9995, -3⟩) := rfl
  have hquoted := result_feed hticker hpos hinverse hafter 1700000000 ⟨"FIAT", "BRL-USD"⟩
  have hcut : ofDecimal (.finite ⟨false, 9999999999999999999999999996, -29⟩) =
      .ok 99999999999 := by decide +kernel
  obtain rfl := Except.ok.inj (hquoted.symm.trans hquotation)
  obtain rfl := Except.ok.inj (hcut.symm.trans hprice)
  have hexact : (9995 * 10 ^ 8 / Numeral.value ⟨false, 9995, -3⟩ : ℚ) = 10 ^ 11 := by
    norm_num [hmarket]
  exact ⟨_, hquotation, hprice, hexact ▸ hfloor⟩

end PriceBoard.Custom.CrossRate
