import PriceBoard.Proofs.Decimal.Order
import PriceBoard.Proofs.Source.CrossRate

/-!
# Cross rates fall as the market rises

The dearer a dollar is in a currency, the less the currency is worth, and a price with a reduction is
not above the one without.  This holds of the computed prices as well, although they are rounded up
to four times on the way (`price_antitone`).

## Strategy

Rounding keeps the order, so that the inverse is no problem, and neither is the last rounding of a
reduced price.  In between there is a difference: from a larger price a larger share is taken off,
and rounding could make the share grow faster than the price.

It does not (`share_sub_share_le`).  Inverses have no more digits than the working precision, so
there are gaps between them.  Five times a price is off by half a unit at most, and dividing this by
ten thousand only moves the point: the share grows by less than a hundredth of the gap, plus half of
the smallest unit of the working range on either side.  Both the share and the price are whole
numbers of these units, and so the share grows by no more of them than the price does.
-/

namespace PriceBoard.Custom.CrossRate

open Numeral FixedPoint

variable {ε : Type} {rate dear cheap : CrossRate} {market price : Numeral} {smaller larger : ℚ}

/-! ## The share of a reduction -/

/-- Five hundredths of a percent, as they are computed. -/
def share (price : ℚ) : ℚ :=
  rounded precision (rounded precision (price * 5) / 10000)

@[simp] theorem share_zero : share 0 = 0 := by
  simp [share]

theorem share_nonneg (price : ℚ) : 0 ≤ share price :=
  rounded_nonneg precision _

/-- Five times a price is off by five units of the last digit of the price at most. -/
theorem abs_rounded_mul_five_sub_le (hpos : 0 < smaller) :
    |rounded precision (smaller * 5) - smaller * 5| ≤ 5 * 10 ^ lastExponent precision smaller := by
  have hlast : lastExponent precision (smaller * 5) ≤ lastExponent precision smaller + 1 :=
    lastExponent_le_add_one (by linarith) (by linarith)
  calc |rounded precision (smaller * 5) - smaller * 5|
      ≤ 10 ^ lastExponent precision (smaller * 5) / 2 :=
        abs_rounded_sub_le precision (by linarith)
    _ ≤ 10 ^ (lastExponent precision smaller + 1) / 2 :=
        div_le_div_of_nonneg_right (zpow_le_zpow_right₀ (by norm_num) hlast) (by norm_num)
    _ = 5 * 10 ^ lastExponent precision smaller := by
        rw [zpow_add₀ (by norm_num), zpow_one]
        ring

/-- Five times a price grows by a limited multiple of what the price grows by. -/
theorem rounded_mul_five_sub_le (hsmaller : rounded precision smaller = smaller)
    (hlarger : rounded precision larger = larger) (hnonneg : 0 ≤ smaller)
    (hlt : smaller < larger) :
    rounded precision (larger * 5) - rounded precision (smaller * 5) ≤
      60 * (larger - smaller) := by
  have hlargerPos : 0 < larger := hnonneg.trans_lt hlt
  have hfar := abs_rounded_mul_five_sub_le hlargerPos
  rw [abs_le] at hfar
  rcases le_or_gt (2 * smaller) larger with hdouble | hclose
  · -- at least half of the larger price is gap
    have hunit := pow_lastExponent_le hlarger hlargerPos
    have hrest := rounded_nonneg precision (smaller * 5)
    linarith
  · -- the units of the two prices are of about one size, and they fit into the gap
    have hpos : 0 < smaller := by linarith
    have hnear := abs_rounded_mul_five_sub_le hpos
    rw [abs_le] at hnear
    have hgap := pow_lastExponent_le_sub hsmaller hlarger hpos hlt
    have hunit : (10 : ℚ) ^ lastExponent precision larger ≤
        10 ^ (lastExponent precision smaller + 1) :=
      zpow_le_zpow_right₀ (by norm_num) (lastExponent_le_add_one hlargerPos (by linarith))
    rw [zpow_add₀ (by norm_num), zpow_one] at hunit
    linarith

/-- One part in ten thousand of a computed number is off by half of the smallest unit at most. -/
theorem abs_share_sub_le (price : ℚ) :
    |share price - rounded precision (price * 5) / 10000| ≤ 10 ^ bottomExponent precision / 2 := by
  have hmoved := abs_rounded_mul_pow_sub_le (rounded_rounded precision_pos (price * 5))
    (rounded_nonneg precision _) (-4)
  have hpower : (10 : ℚ) ^ (-4 : ℤ) = 1 / 10000 := by norm_num
  rwa [hpower, mul_one_div] at hmoved

/-- **The share does not grow faster than the price.** -/
theorem share_sub_share_le (hsmaller : rounded precision smaller = smaller)
    (hlarger : rounded precision larger = larger) (hnonneg : 0 ≤ smaller)
    (hle : smaller ≤ larger) : share larger - share smaller ≤ larger - smaller := by
  rcases hle.eq_or_lt with rfl | hlt
  · rw [sub_self, sub_self]
  have hfive := rounded_mul_five_sub_le hsmaller hlarger hnonneg hlt
  have habove := abs_le.mp (abs_share_sub_le larger)
  have hbelow := abs_le.mp (abs_share_sub_le smaller)
  -- everything is counted in the smallest units
  have hbottom := bottomExponent_le_lastExponent precision
  obtain ⟨few, hfew⟩ := exists_units_of_rounded hsmaller (hbottom _)
  obtain ⟨many, hmany⟩ := exists_units_of_rounded hlarger (hbottom _)
  obtain ⟨little, hlittle⟩ :=
    exists_units_of_rounded (rounded_rounded precision_pos _) (hbottom (share smaller))
  obtain ⟨much, hmuch⟩ :=
    exists_units_of_rounded (rounded_rounded precision_pos _) (hbottom (share larger))
  change share smaller = _ at hlittle
  change share larger = _ at hmuch
  have hunit : (0 : ℚ) < 10 ^ bottomExponent precision := by positivity
  generalize (10 : ℚ) ^ bottomExponent precision = unit at *
  have hunits : much + few < many + little + 1 := by
    have hscaled : ((much + few : ℕ) : ℚ) * unit < ((many + little + 1 : ℕ) : ℚ) * unit := by
      push_cast
      linarith
    exact_mod_cast lt_of_mul_lt_mul_right hscaled hunit.le
  have hscaled : ((much + few : ℕ) : ℚ) * unit ≤ ((many + little : ℕ) : ℚ) * unit :=
    mul_le_mul_of_nonneg_right (by exact_mod_cast Nat.le_of_lt_succ hunits) hunit.le
  push_cast at hscaled
  rw [hmuch, hlittle, hmany, hfew]
  linarith

/-- The share is not more than the price. -/
theorem share_le (hkept : rounded precision smaller = smaller) (hnonneg : 0 ≤ smaller) :
    share smaller ≤ smaller := by
  simpa using share_sub_share_le (rounded_zero precision) hkept le_rfl hnonneg

/-! ## The order of reduced prices -/

/-- A price less five hundredths of a percent, as it is computed. -/
def lessShare (price : ℚ) : ℚ :=
  rounded precision (price - share price)

theorem lessShare_mono (hsmaller : rounded precision smaller = smaller)
    (hlarger : rounded precision larger = larger) (hnonneg : 0 ≤ smaller)
    (hle : smaller ≤ larger) : lessShare smaller ≤ lessShare larger := by
  have hgrowth := share_sub_share_le hsmaller hlarger hnonneg hle
  exact rounded_mono precision_pos (sub_nonneg.mpr (share_le hsmaller hnonneg)) (by linarith)

theorem lessShare_le (hkept : rounded precision smaller = smaller) (hnonneg : 0 ≤ smaller) :
    lessShare smaller ≤ smaller :=
  calc lessShare smaller ≤ rounded precision smaller :=
        rounded_mono precision_pos (sub_nonneg.mpr (share_le hkept hnonneg))
          (sub_le_self _ (share_nonneg smaller))
    _ = smaller := hkept

/-- What is left of a price after the reduction of the cross rate, if there is one. -/
def net (rate : CrossRate) (price : ℚ) : ℚ :=
  if rate.reduction.isZero then price else lessShare price

theorem net_nonneg (rate : CrossRate) (hnonneg : 0 ≤ smaller) : 0 ≤ net rate smaller := by
  unfold net
  split
  · exact hnonneg
  · exact rounded_nonneg precision _

/-- A smaller price and a reduction leave less. -/
theorem net_le_net (hsmaller : rounded precision smaller = smaller)
    (hlarger : rounded precision larger = larger) (hnonneg : 0 ≤ smaller) (hle : smaller ≤ larger)
    (hreduction : cheap.reduction.isZero = true → dear.reduction.isZero = true) :
    net cheap smaller ≤ net dear larger := by
  unfold net
  split_ifs with hcheap hdear hdear
  · exact hle
  · exact absurd (hreduction hcheap) hdear
  · exact (lessShare_le hsmaller hnonneg).trans hle
  · exact lessShare_mono hsmaller hlarger hnonneg hle

/-! ## What the feed computes -/

theorem value_five : (Numeral.ofInt 5).value = 5 := by
  simp

theorem value_wholeReduction : wholeReduction.value = 10000 := by
  simp [wholeReduction]

/-- The reduction takes the share off. -/
theorem reduced_yields (hkept : rounded precision price.value = price.value)
    (hnonneg : 0 ≤ price.value) :
    Yields (lessShare price.value) (reduced (.ofInt 5) price) := by
  have hproduct := mul_yields hnonneg (value_five ▸ by norm_num : 0 ≤ (Numeral.ofInt 5).value)
  rw [value_five] at hproduct
  rcases hproduct with ⟨product, hproduct, hproductValue⟩ | hfault
  case inr => exact .inr (by simp only [reduced, hfault, bind, Except.bind])
  have hshare := div_yields (hproductValue ▸ rounded_nonneg precision _ : 0 ≤ product.value)
    (value_wholeReduction ▸ by norm_num : 0 < wholeReduction.value)
  rw [value_wholeReduction, hproductValue] at hshare
  rcases hshare with ⟨part, hshare, hshareValue⟩ | hfault
  case inr => exact .inr (by simp only [reduced, hproduct, hfault, bind, Except.bind])
  have hrest := sub_yields (hshareValue ▸ share_le hkept hnonneg : part.value ≤ price.value)
  rw [hshareValue] at hrest
  rcases hrest with ⟨rest, hrest, hrestValue⟩ | hfault
  case inr => exact .inr (by simp only [reduced, hproduct, hshare, hfault, bind, Except.bind])
  refine .inl ⟨rest.clampNegative, reduced_eq_ok hproduct hshare hrest, ?_⟩
  rw [value_clampNegative, hrestValue]
  exact max_eq_left (rounded_nonneg precision _)

/-- The price is left as it is or reduced by five hundredths of a percent. -/
def PlainOrReduced (rate : CrossRate) : Prop :=
  rate.reduction.isZero = true ∨ rate.reduction = .ofInt 5

theorem afterReduction_yields (hoffered : rate.PlainOrReduced)
    (hkept : rounded precision price.value = price.value) (hnonneg : 0 ≤ price.value) :
    (∃ rest, rate.afterReduction (.finite price) = .ok (.finite rest) ∧
      rest.value = net rate price.value) ∨
    rate.afterReduction (.finite price) = .error .overflow := by
  unfold afterReduction net
  rcases hoffered with hzero | hfive
  · exact .inl ⟨price, by simp [hzero]⟩
  · have hnot : ¬ rate.reduction.isZero = true := by
      rw [hfive]
      decide
    rw [if_neg hnot, if_neg hnot]
    simp only [hfive]
    rcases reduced_yields hkept hnonneg with ⟨rest, hrest, hvalue⟩ | hfault
    · exact .inl ⟨rest, by rw [hrest]; rfl, hvalue⟩
    · exact .inr (by rw [hfault]; rfl)

theorem result_inverse_of_error {cause : Signal} (hpos : 0 < market.value)
    (hfault : one.div market = .error cause) :
    (rate.inverse (.finite market) : Outcome ε Decimal).result = .error (.decimal cause) := by
  have hzero : ¬ market.isZero = true := by
    rw [isZero_iff]
    exact hpos.ne'
  rw [CrossRate.inverse, Decimal.reciprocal, if_neg hzero]
  simp only [hfault]
  rfl

/-- The feed quotes the computed price, unless it leaves the working range on the way. -/
theorem result_feed_cases (hoffered : rate.PlainOrReduced) {ticker : String → Outcome ε Decimal}
    (hticker : (ticker rate.market).result = .ok (.finite market)) (hpos : 0 < market.value)
    (now : ℤ) (asset : Asset) :
    (∃ found, ((rate.feed ticker now).quotation asset).result = .ok found ∧
      found.price.value = net rate (rounded precision (1 / market.value))) ∨
    ((rate.feed ticker now).quotation asset).result = .error (.decimal .overflow) := by
  have hone : one.value = 1 := by norm_num [one, value, signedCoefficient]
  have hinverse := div_yields (hone ▸ zero_le_one : 0 ≤ one.value) hpos
  rw [hone] at hinverse
  rcases hinverse with ⟨inverse, hinverse, hvalue⟩ | hfault
  case inr =>
    right
    simp only [feed]
    rw [Outcome.result_bind_ok hticker, Outcome.result_bind, result_inverse_of_error hpos hfault]
    rfl
  have hkept : rounded precision inverse.value = inverse.value := by
    rw [hvalue]
    exact rounded_rounded precision_pos _
  have hnonneg : 0 ≤ inverse.value := hvalue ▸ rounded_nonneg precision _
  rcases afterReduction_yields hoffered hkept hnonneg with ⟨rest, hrest, hrestValue⟩ | hfault
  · left
    exact ⟨_, result_feed hticker hpos hinverse hrest now asset, by rw [hrestValue, hvalue]⟩
  · right
    have hresult : (rate.inverse (.finite market) : Outcome ε Decimal).result =
        .ok (.finite inverse) := by
      rw [CrossRate.inverse, reciprocal_of_div hpos hinverse]
      rfl
    simp only [feed]
    rw [Outcome.result_bind_ok hticker, Outcome.result_bind_ok hresult, Outcome.result_bind,
      Outcome.result_ofExcept, hfault]
    rfl

/-! ## The order of prices -/

/-- The cross rate can be quoted like this if the market price is the given one. -/
def Quotes (rate : CrossRate) (market : Numeral) (found : Quotation) : Prop :=
  ∃ (ε : Type) (ticker : String → Outcome ε Decimal) (now : ℤ) (asset : Asset),
    (ticker rate.market).result = .ok (.finite market) ∧
      ((rate.feed ticker now).quotation asset).result = .ok found

theorem Quotes.value_eq {found : Quotation} (hquotes : rate.Quotes market found)
    (hoffered : rate.PlainOrReduced) (hpos : 0 < market.value) :
    found.price.value = net rate (rounded precision (1 / market.value)) := by
  obtain ⟨ε, ticker, now, asset, hticker, hfound⟩ := hquotes
  rcases result_feed_cases hoffered hticker hpos now asset with ⟨quoted, hquoted, hvalue⟩ | hfault
  · cases hquoted.symm.trans hfound
    exact hvalue
  · cases hfault.symm.trans hfound

/-- **Prices fall as the market rises.**  Of two quotations that are made at different prices of
their markets, the one at the higher market price is not below zero and not above the other, and
neither is its fixed-point price, if both have one.  This is so without a reduction, with a reduction
of five hundredths of a percent, and if just the one at the higher market price is reduced; the two
market prices may be the same. -/
theorem price_antitone (dear cheap : CrossRate) (lower upper : Numeral) (dearer cheaper : Quotation)
    (hdear : dear.PlainOrReduced) (hcheap : cheap.PlainOrReduced)
    (hreduction : cheap.reduction.isZero = true → dear.reduction.isZero = true)
    (hpos : 0 < lower.value) (hle : lower.value ≤ upper.value)
    (hdearer : dear.Quotes lower dearer) (hcheaper : cheap.Quotes upper cheaper) :
    0 ≤ cheaper.price.value ∧ cheaper.price.value ≤ dearer.price.value ∧
      ∀ units less, ofDecimal (.finite dearer.price) = .ok units →
        ofDecimal (.finite cheaper.price) = .ok less → less ≤ units := by
  have hinverses : rounded precision (1 / upper.value) ≤ rounded precision (1 / lower.value) :=
    rounded_mono precision_pos (one_div_nonneg.mpr (hpos.le.trans hle))
      (one_div_le_one_div_of_le hpos hle)
  have hsmallest := rounded_nonneg precision (1 / upper.value)
  have hnonneg : 0 ≤ cheaper.price.value := by
    rw [hcheaper.value_eq hcheap (hpos.trans_le hle)]
    exact net_nonneg cheap hsmallest
  have hprices : cheaper.price.value ≤ dearer.price.value := by
    rw [hcheaper.value_eq hcheap (hpos.trans_le hle), hdearer.value_eq hdear hpos]
    exact net_le_net (rounded_rounded precision_pos _) (rounded_rounded precision_pos _) hsmallest
      hinverses hreduction
  refine ⟨hnonneg, hprices, fun units less hunits hless => ?_⟩
  exact le_of_ofNumeral_of_le hnonneg hprices hless hunits

/-- At `9.995` the reduced price is not above the plain one at `1.5`, and it has fewer units. -/
theorem price_antitone_reduced :
    ∃ dearer cheaper, Pipeline.arsRate.Quotes ⟨false, 15, -1⟩ dearer ∧
      Pipeline.brlRate.Quotes ⟨false, 9995, -3⟩ cheaper ∧
      0 ≤ cheaper.price.value ∧ cheaper.price.value ≤ dearer.price.value ∧
      ofDecimal (.finite dearer.price) = .ok 666666666666 ∧
      ofDecimal (.finite cheaper.price) = .ok 99999999999 ∧ 99999999999 ≤ 666666666666 := by
  have hlower : Numeral.value ⟨false, 15, -1⟩ = 3 / 2 := by
    norm_num [value, signedCoefficient]
  have hupper : Numeral.value ⟨false, 9995, -3⟩ = 9995 / 1000 := by
    norm_num [value, signedCoefficient]
  have hpos : 0 < Numeral.value ⟨false, 15, -1⟩ := by norm_num [hlower]
  have hle : Numeral.value ⟨false, 15, -1⟩ ≤ Numeral.value ⟨false, 9995, -3⟩ := by
    norm_num [hlower, hupper]
  have hreduced : reduced (.ofInt 5) ⟨false, 1000500250125062531265632816, -28⟩ =
      .ok ⟨false, 9999999999999999999999999996, -29⟩ := by decide +kernel
  have hafter : Pipeline.brlRate.afterReduction
      (.finite ⟨false, 1000500250125062531265632816, -28⟩) =
        .ok (.finite ⟨false, 9999999999999999999999999996, -29⟩) := by
    simp only [CrossRate.afterReduction, Pipeline.brlRate, hreduced]
    rfl
  have hdearer : Pipeline.arsRate.Quotes ⟨false, 15, -1⟩ _ :=
    ⟨Empty, constantTicker ⟨false, 15, -1⟩, 1700000000, ⟨"FIAT", "ARS-USD"⟩, rfl,
      result_feed rfl hpos (show one.div ⟨false, 15, -1⟩ =
        .ok ⟨false, 6666666666666666666666666667, -28⟩ by decide +kernel) rfl _ _⟩
  have hcheaper : Pipeline.brlRate.Quotes ⟨false, 9995, -3⟩ _ :=
    ⟨Empty, constantTicker ⟨false, 9995, -3⟩, 1700000000, ⟨"FIAT", "BRL-USD"⟩, rfl,
      result_feed rfl (hpos.trans_le hle) (show one.div ⟨false, 9995, -3⟩ =
        .ok ⟨false, 1000500250125062531265632816, -28⟩ by decide +kernel) hafter _ _⟩
  obtain ⟨hnonneg, hprices, horder⟩ := price_antitone Pipeline.arsRate Pipeline.brlRate _ _ _ _
    (.inl rfl) (.inr rfl) (fun _ => rfl) hpos hle hdearer hcheaper
  have hunits : ofDecimal (.finite ⟨false, 6666666666666666666666666667, -28⟩) =
      .ok 666666666666 := by decide +kernel
  have hless : ofDecimal (.finite ⟨false, 9999999999999999999999999996, -29⟩) =
      .ok 99999999999 := by decide +kernel
  exact ⟨_, _, hdearer, hcheaper, hnonneg, hprices, hunits, hless, horder _ _ hunits hless⟩

end PriceBoard.Custom.CrossRate
