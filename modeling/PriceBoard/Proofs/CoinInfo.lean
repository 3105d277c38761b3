import PriceBoard.CoinInfo
import PriceBoard.Proofs.FixedPoint
import PriceBoard.Proofs.Quotation

/-!
# Records of quotations

A quotation is published under a key, `keyOf`: its symbol on its blockchain, or on `FIAT` if it
names none.  Whether there is a record depends on the price alone, and `ofQuotation_eq_ok_iff` says
what the record is; `bounded_of_ofQuotation` says what all records have in common.  A record is sent
out under the names by which it is read (`check_fields`).
-/

namespace PriceBoard.CoinInfo

variable {quotation : Quotation} {record : CoinInfo}

/-- The key under which a quotation is published. -/
def keyOf (quotation : Quotation) : Asset :=
  ⟨blockchainOf quotation, quotation.symbol⟩

theorem keyOf_eq {blockchain symbol : String}
    (hblockchain : quotation.blockchain = some blockchain) (hsome : blockchain ≠ "")
    (hsymbol : quotation.symbol = symbol) : keyOf quotation = ⟨blockchain, symbol⟩ := by
  simp [keyOf, blockchainOf, hblockchain, hsome, hsymbol]

theorem ofQuotation_eq_ok_iff :
    ofQuotation quotation = .ok record ↔
      ∃ price, FixedPoint.ofNumeral quotation.price = .ok price ∧
        record = ⟨quotation.symbol, quotation.name, blockchainOf quotation, 0,
          max quotation.timestamp 0, price⟩ := by
  unfold ofQuotation
  cases hprice : FixedPoint.ofNumeral quotation.price with
  | error fault => simp [Except.map]
  | ok price => simp [Except.map, eq_comm]

/-- There is a record just if the price has a fixed-point form. -/
theorem exists_record_iff :
    (∃ record, ofQuotation quotation = .ok record) ↔
      ∃ price, FixedPoint.ofNumeral quotation.price = .ok price := by
  simp only [ofQuotation_eq_ok_iff]
  constructor
  · rintro ⟨_, price, hprice, -⟩
    exact ⟨price, hprice⟩
  · rintro ⟨price, hprice⟩
    exact ⟨_, price, hprice, rfl⟩

theorem asset_ofQuotation (hrecord : ofQuotation quotation = .ok record) :
    record.asset = keyOf quotation := by
  obtain ⟨price, -, rfl⟩ := ofQuotation_eq_ok_iff.mp hrecord
  rfl

/-- The price of the record is that of the quotation, in units. -/
theorem price_ofQuotation (hpos : 0 < quotation.price.value)
    (hrecord : ofQuotation quotation = .ok record) :
    record.price = (min ⌊quotation.price.value * 10 ^ 12⌋₊ (2 ^ 128 - 1) : ℕ) := by
  obtain ⟨price, hprice, rfl⟩ := ofQuotation_eq_ok_iff.mp hrecord
  rw [FixedPoint.ofNumeral_of_pos hpos] at hprice
  split at hprice
  · cases hprice
    rfl
  · cases hprice

/-- The price is not zero just if it is a unit at least. -/
theorem one_le_price_iff (hpos : 0 < quotation.price.value)
    (hrecord : ofQuotation quotation = .ok record) :
    1 ≤ record.price ↔ 1 / 10 ^ 12 ≤ quotation.price.value := by
  have hunits : 1 ≤ record.price ↔ 1 ≤ ⌊quotation.price.value * 10 ^ 12⌋₊ := by
    rw [price_ofQuotation hpos hrecord, Nat.one_le_cast, le_min_iff]
    exact and_iff_left (by norm_num)
  rw [hunits, Nat.one_le_floor_iff, div_le_iff₀ (by norm_num)]

/-- A record within the bounds of the published numbers. -/
structure Bounded (record : CoinInfo) : Prop where
  price_nonneg : 0 ≤ record.price
  price_le : record.price ≤ 2 ^ 128 - 1
  supply_eq : record.supply = 0
  lastUpdate_nonneg : 0 ≤ record.lastUpdate

theorem bounded_of_ofQuotation (hrecord : ofQuotation quotation = .ok record) :
    record.Bounded := by
  obtain ⟨price, hprice, rfl⟩ := ofQuotation_eq_ok_iff.mp hrecord
  have hle : price ≤ 2 ^ 128 - 1 := FixedPoint.le_of_ofNumeral hprice
  exact ⟨by positivity, by simp only; omega, rfl, le_max_right _ _⟩

/-- The time of the last update is sent out under the first of its names. -/
theorem lastUpdateName_fields (record : CoinInfo) :
    lastUpdateName record.fields = "lastUpdateTimestamp" := by
  have hmember : Json.member? "lastUpdateTimestamp" record.fields =
      some (.integer record.lastUpdate) := rfl
  rw [lastUpdateName, hmember]
  rfl

open Checked Reader in
/-- A record that is sent out is read back as it was. -/
theorem check_fields (record : CoinInfo) : check record.fields = .ok record := by
  -- one step for each field, in the order of the record
  refine apply_eq_ok (apply_eq_ok (apply_eq_ok (apply_eq_ok (apply_eq_ok (apply_eq_ok rfl ?_)
    ?_) ?_) ?_) ?_) ?_
  · exact required_eq_ok rfl (text_ofText record.symbol)
  · exact required_eq_ok rfl (text_ofText record.name)
  · exact required_eq_ok rfl (text_ofText record.blockchain)
  · exact withDefault_eq_ok rfl (integer_integer record.supply) 0
  · rw [lastUpdateName_fields]
    exact required_eq_ok rfl (integer_integer record.lastUpdate)
  · exact required_eq_ok rfl (integer_integer record.price)

end PriceBoard.CoinInfo
