import PriceBoard.Proofs.Pipeline.Fidelity
import PriceBoard.Proofs.Pipeline.ReadBack

/-!
# Prices above zero

Prices that are not above zero are left out before they are put into units, and what is less than a
unit is dropped after that.  So every record that can ever be seen was made of a price above zero,
and its own price is above zero just if there was a unit at least (`price_of_mem_toList`).  Below a
unit it is zero, and such records are shown like all others (`not_all_prices_positive`).
-/

namespace PriceBoard.Pipeline

open Provider CoinInfo

variable {settings : Settings} {occasion : Occasion} {asset : Asset} {quotation : Quotation}

/-- Every record on the board of a pipeline, whatever has happened to it, comes from a cycle: the
owner of a configured asset had a price above zero for it, and the record has this price in units,
rounded down.  This is zero just if the price is less than a unit. -/
theorem price_of_mem_toList (settings : Settings) (events : List Event) (record : CoinInfo)
    (hrecord : record ∈ ((build settings).run events).worker.updater.board.toList) :
    ∃ occasion ∈ events.filterMap Event.occasion?, ∃ asset ∈ settings.currencies,
      ∃ quotation, obtainedOn? settings occasion asset = some quotation ∧
        0 < quotation.price.value ∧ ofQuotation quotation = .ok record ∧
        record.price = (min ⌊quotation.price.value * 10 ^ 12⌋₊ (2 ^ 128 - 1) : ℕ) ∧
        (1 ≤ record.price ↔ 1 / 10 ^ 12 ≤ quotation.price.value) := by
  rcases (serving_run settings events).board_eq with hempty | ⟨occasion, hoccasion, hboard⟩
  · rw [hempty] at hrecord
    cases hrecord
  · rw [hboard] at hrecord
    have hshown : (boardOn settings occasion).get? record.asset = some record :=
      (Board.wellKeyed_publish _ _).mem_toList_iff.mp hrecord
    obtain ⟨asset, hasset, quotation, hobtained, hpos, hquotation, -⟩ := obtained_of_boardOn hshown
    exact ⟨occasion, hoccasion, asset, hasset, quotation, hobtained, hpos, hquotation,
      price_ofQuotation hpos hquotation, one_le_price_iff hpos hquotation⟩

/-- After one cycle whose batch came to its end, what is obtained and has a price is shown. -/
theorem exists_record_of_obtained (hcompleted : Completed settings occasion)
    (hasset : asset ∈ settings.currencies)
    (hobtained : obtainedOn? settings occasion asset = some quotation)
    (hpos : 0 < quotation.price.value)
    (hprice : ∃ price, FixedPoint.ofNumeral quotation.price = .ok price) :
    ∃ record ∈ ((build settings).run [.byHand occasion]).worker.updater.board.toList,
      ofQuotation quotation = .ok record := by
  obtain ⟨record, hquotation⟩ := exists_record_iff.mpr hprice
  have hshown : (boardOn settings occasion).get? record.asset = some record :=
    (get?_boardOn hcompleted).mpr ⟨asset, hasset, quotation, hobtained, hpos, hquotation,
      (asset_ofQuotation hquotation).symm⟩
  refine ⟨record, ?_, hquotation⟩
  rw [board_run_byHand]
  exact (Board.wellKeyed_publish _ _).mem_toList_iff.mpr hshown

theorem price_of_mem_toList_dollar :
    ∃ record ∈ ((build (dollarSettings "FIAT")).run
      [.byHand silentOccasion]).worker.updater.board.toList, 1 ≤ record.price := by
  have hobtained : obtainedOn? (dollarSettings "FIAT") silentOccasion ⟨"FIAT", "USD-USD"⟩ =
      some dollarQuotation := obtainedOn?_dollar (.inl rfl)
  obtain ⟨record, hrecord, -⟩ := exists_record_of_obtained
    (completed_of_printable _ printable_silentOccasion) List.mem_cons_self hobtained
    pos_dollarQuotation ⟨_, ofNumeral_dollar⟩
  refine ⟨record, hrecord, ?_⟩
  obtain ⟨occasion, hoccasion, asset, hasset, quotation, hfound, -, -, -, hpositive⟩ :=
    price_of_mem_toList (dollarSettings "FIAT") [.byHand silentOccasion] record hrecord
  -- there is one occasion and one asset only
  have honly : occasion = silentOccasion := List.mem_singleton.mp hoccasion
  have hdollar : asset = ⟨"FIAT", "USD-USD"⟩ := List.mem_singleton.mp hasset
  rw [honly, hdollar, hobtained] at hfound
  rw [hpositive, ← Option.some.inj hfound]
  norm_num [dollarQuotation, Numeral.value, Numeral.signedCoefficient, Numeral.one]

/-! ## Less than a unit -/

/-- The tiny number in a document. -/
def tinyPrice : Json.Script :=
  .number tinyNumber ⟨by decide, fun _ => inRange_tinyNumber, by decide⟩

theorem writes_tinyPrice : tinyPrice.Writes tinyNumber :=
  .number _

/-- An occasion on which a coin is worth the tiny number. -/
def tinyOccasion : Occasion :=
  { silentOccasion with
    web := webOf fun route =>
      match route with
      | .market => .ok ((polkadotAnswer silentOccasion.now writes_tinyPrice).reply 200)
      | _ => .error (.timeout "no answer") }

theorem printable_tinyOccasion : Printable tinyOccasion.console tinyOccasion.web := by
  refine .inr fun request => ?_
  change IsUnicode (match request.route with | .market => _ | _ => _)
  cases request.route with
  | market =>
      exact isUnicode_of_decodeExact
        (Json.decodeExact_document _ (polkadotAnswer _ writes_tinyPrice).depth_le) (by rfl)
  | _ => exact Spelling.isText_ofText _

/-- The coin that is worth less than a unit is shown with the price zero. -/
theorem not_all_prices_positive :
    ¬ ∀ (settings : Settings) (events : List Event),
      ∀ record ∈ ((build settings).run events).worker.updater.board.toList, 1 ≤ record.price := by
  intro hall
  have hstatus : Endpoint.isFailure 200 = false := rfl
  have howned : marketOwned coinAndCurrency ⟨"Polkadot", "DOT"⟩ = true := by decide
  have hcompleted : Completed coinAndCurrency tinyOccasion :=
    completed_of_printable _ printable_tinyOccasion
  obtain ⟨quotation, hobtained, hvalue, -⟩ := obtained_of_coin hcompleted hstatus
    (polkadotAnswer tinyOccasion.now writes_tinyPrice)
    (fun request _ hroute => by simp only [tinyOccasion, webOf, hroute, polkadotAnswer])
    (by decide) howned (by decide)
  rw [value_tinyNumber] at hvalue
  have hpos : 0 < quotation.price.value := by
    rw [hvalue]
    norm_num
  have hprice : FixedPoint.ofNumeral quotation.price = .ok 0 := by
    rw [FixedPoint.ofNumeral_of_pos hpos, hvalue]
    norm_num
  obtain ⟨record, hrecord, hquotation⟩ :=
    exists_record_of_obtained hcompleted (by decide) hobtained hpos ⟨0, hprice⟩
  have hunit := (one_le_price_iff hpos hquotation).mp (hall _ _ record hrecord)
  rw [hvalue] at hunit
  norm_num at hunit

end PriceBoard.Pipeline
