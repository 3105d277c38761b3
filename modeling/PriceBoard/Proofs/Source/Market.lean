import PriceBoard.Proofs.Distinct
import PriceBoard.Proofs.Entries
import PriceBoard.Proofs.Outcome
import PriceBoard.Proofs.Quotation
import PriceBoard.Source.Market

/-!
# Coins, one by one

The market source quotes a batch by asking about all ids at once.  As with currencies, what an asset
gets depends on the table of answers and on the asset alone (`quoteIn?`); `perm_quotations` says so
for plain rows, and `result_quotations_of_error` that without a table there is nothing.
-/

namespace PriceBoard.Market

variable {ε : Type} {table : List (Spelling × Row)}

/-! ## Plain rows -/

/-- A row with a finite price, a finite volume and a whole number of seconds. -/
structure Row.Plain (row : Row) : Prop where
  price : ∃ number, row.price = some (.decimal (.finite number))
  volume : ∃ number, row.volume = some (.decimal (.finite number))
  updated : ∃ seconds, row.updated = some (.integer seconds)

theorem quote_of_plain {row : Row} (hplain : row.Plain) :
    ∃ (price supply : Numeral) (seconds : Int), row.price = some (.decimal (.finite price)) ∧
      ∀ asset : Asset, quote row asset =
        .ok ⟨asset.symbol, asset.symbol, some asset.blockchain, price, supply, seconds⟩ := by
  obtain ⟨price, hprice⟩ := hplain.price
  obtain ⟨volume, hvolume⟩ := hplain.volume
  obtain ⟨seconds, hseconds⟩ := hplain.updated
  have hsupply : ∃ supply, (supplyOf row.volume).finite? = some supply := by
    rw [hvolume]
    simp only [supplyOf]
    split
    · exact ⟨_, rfl⟩
    · exact ⟨volume, rfl⟩
  obtain ⟨supply, hsupply⟩ := hsupply
  refine ⟨price, supply, seconds, hprice, fun asset => ?_⟩
  simp only [quote, hprice, hseconds, needed, Option.elim, bind, Except.bind]
  exact Quotation.report_of_finite asset.blockchain asset.symbol rfl hsupply seconds

/-! ## Single assets -/

/-- The quotation of an asset by a table. -/
def quoteIn? (table : List (Spelling × Row)) (asset : Asset) : Option Quotation :=
  (id? asset).bind fun id =>
    (valueAt? (Spelling.ofText id) table).bind fun row => (quote row asset).toOption

/-- The price of an asset is the one in the row of its coin. -/
theorem exists_quoteIn? {asset : Asset} {id : String} {row : Row} {price : Numeral}
    (hid : id? asset = some id) (hrow : valueAt? (Spelling.ofText id) table = some row)
    (hplain : row.Plain) (hprice : row.price = some (.decimal (.finite price))) :
    ∃ quotation, quoteIn? table asset = some quotation ∧ quotation.price = price := by
  obtain ⟨found, supply, seconds, hfound, hquote⟩ := quote_of_plain hplain
  cases hprice.symm.trans hfound
  refine ⟨⟨asset.symbol, asset.symbol, some asset.blockchain, price, supply, seconds⟩, ?_, rfl⟩
  rw [quoteIn?, hid, Option.bind_some, hrow, Option.bind_some, hquote]
  rfl

theorem names_of_quoteIn? {asset : Asset} {quotation : Quotation}
    (hquotation : quoteIn? table asset = some quotation) :
    quotation.blockchain = some asset.blockchain ∧ quotation.symbol = asset.symbol := by
  obtain ⟨id, -, hquotation⟩ := Option.bind_eq_some_iff.mp hquotation
  obtain ⟨row, -, hquotation⟩ := Option.bind_eq_some_iff.mp hquotation
  obtain ⟨price, -, hquotation⟩ := bind_eq_ok (toOption_eq_some_iff.mp hquotation)
  obtain ⟨updated, -, hquotation⟩ := bind_eq_ok hquotation
  exact Quotation.names_of_report hquotation

/-- No coin is on the blockchain of currencies or on one without a name. -/
theorem blockchain_of_id? {asset : Asset} {id : String} (hid : id? asset = some id) :
    asset.blockchain ≠ "FIAT" ∧ asset.blockchain ≠ "" := by
  have hids : ∀ entry ∈ ids, entry.1.blockchain ≠ "FIAT" ∧ entry.1.blockchain ≠ "" := by
    simp [ids]
  have hupper := hids _ (mem_of_valueAt? hid)
  constructor
  · intro hfiat
    rw [hfiat] at hupper
    exact hupper.1 rfl
  · intro hempty
    rw [hempty] at hupper
    exact hupper.2 rfl

/-! ## Batches -/

/-- The ids that are asked for. -/
def idsOf (assets : List Asset) : List String :=
  (groupByLabel Prod.fst (assets.filterMap fun asset => (id? asset).map (·, asset))).map Prod.fst

theorem idsOf_eq_nil_iff (assets : List Asset) :
    idsOf assets = [] ↔ ∀ asset ∈ assets, id? asset = none := by
  rw [idsOf, List.map_eq_nil_iff, groupByLabel_eq_nil_iff, List.filterMap_eq_nil_iff]
  simp

/-- Nothing is asked for just if there are no groups. -/
theorem isEmpty_groups_iff (assets : List Asset) :
    (groupByLabel Prod.fst (assets.filterMap fun asset => (id? asset).map (·, asset))).isEmpty =
      true ↔ idsOf assets = [] := by
  rw [List.isEmpty_iff, idsOf, List.map_eq_nil_iff]

theorem result_quoteId {id : String}
    (hplain : ∀ row, valueAt? (Spelling.ofText id) table = some row → row.Plain)
    (assets : List Asset) :
    (quoteId table id assets : Outcome ε (List Quotation)).result =
      .ok (assets.filterMap fun asset =>
        (valueAt? (Spelling.ofText id) table).bind fun row => (quote row asset).toOption) := by
  unfold quoteId
  cases hrow : valueAt? (Spelling.ofText id) table with
  | none => simp [Outcome.result_bind_ok (Outcome.result_note _)]
  | some row =>
      obtain ⟨price, supply, seconds, -, hquote⟩ := quote_of_plain (hplain row hrow)
      simp only [Outcome.result_ofExcept]
      rw [mapM_eq_ok_of_forall fun asset _ => hquote asset]
      simp [hquote, Except.toOption]

theorem requests_quoteId (id : String) (assets : List Asset) :
    (quoteId table id assets : Outcome ε (List Quotation)).requests = [] := by
  unfold quoteId
  cases valueAt? (Spelling.ofText id) table with
  | none => exact Outcome.requests_bind_eq_first fun _ => rfl
  | some row => rfl

/-- The notes about assets that are no coins leave nothing else behind. -/
theorem result_notes (assets : List Asset) :
    (Outcome.collect (fun asset => do
      Outcome.note ("[MARKET][unsupported_asset] asset=" ++ Asset.text asset)
      return ([] : List Quotation)) assets : Outcome ε _).result =
        .ok (assets.flatMap fun _ => []) :=
  Outcome.result_collect fun _ _ => rfl

/-- A batch is what comes of one call. -/
theorem result_quotations (prices : List String → Outcome ε (List (Spelling × Row)))
    (assets : List Asset) :
    (quotations prices assets).result =
      if idsOf assets = [] then .ok []
      else
        (prices (idsOf assets)).result >>= fun table =>
          (Outcome.collect
            (fun group : String × List (String × Asset) =>
              (quoteId table group.1 (group.2.map Prod.snd) : Outcome ε _))
            (groupByLabel Prod.fst
              (assets.filterMap fun asset => (id? asset).map (·, asset)))).result := by
  unfold quotations
  rw [Outcome.result_bind_ok (result_notes _)]
  simp only [isEmpty_groups_iff]
  split
  · rfl
  · simp only [Outcome.result_bind]
    rfl

/-- The only requests are those of the call. -/
theorem requests_quotations (prices : List String → Outcome ε (List (Spelling × Row)))
    (assets : List Asset) :
    (quotations prices assets).requests =
      if idsOf assets = [] then [] else (prices (idsOf assets)).requests := by
  unfold quotations
  rw [Outcome.requests_bind_ok (result_notes _),
    Outcome.requests_collect_eq_nil fun _ => Outcome.requests_bind_eq_first fun _ => rfl]
  simp only [isEmpty_groups_iff, List.nil_append]
  split
  · rfl
  · -- what follows the call only reads the table
    refine Outcome.requests_bind_eq_first fun table => ?_
    exact Outcome.requests_collect_eq_nil fun group => requests_quoteId group.1 _

/-- Without a table there is nothing, if a table was asked for. -/
theorem result_quotations_of_error {prices : List String → Outcome ε (List (Spelling × Row))}
    {assets : List Asset} {fault : Fault} (hids : idsOf assets ≠ [])
    (hprices : (prices (idsOf assets)).result = .error fault) :
    (quotations prices assets).result = .error fault := by
  rw [result_quotations, if_neg hids, hprices]
  rfl

/-- The quotations of a batch are those that its assets have by the table. -/
theorem perm_quotations {prices : List String → Outcome ε (List (Spelling × Row))}
    {assets : List Asset} (hplain : ∀ entry ∈ table, entry.2.Plain)
    (hprices : idsOf assets ≠ [] → (prices (idsOf assets)).result = .ok table) :
    ∃ found, (quotations prices assets).result = .ok found ∧
      found.Perm (assets.filterMap (quoteIn? table)) := by
  rw [result_quotations]
  by_cases hids : idsOf assets = []
  · have hnone : assets.filterMap (quoteIn? table) = [] := by
      rw [List.filterMap_eq_nil_iff]
      intro asset hasset
      rw [quoteIn?, (idsOf_eq_nil_iff assets).mp hids asset hasset, Option.bind_none]
    exact ⟨[], if_pos hids, by rw [hnone]⟩
  · have hrows : ∀ group ∈ groupByLabel Prod.fst
          (assets.filterMap fun asset => (id? asset).map (·, asset)),
        (quoteId table group.1 (group.2.map Prod.snd) : Outcome ε _).result =
          .ok (group.2.filterMap fun pair =>
            (valueAt? (Spelling.ofText group.1) table).bind
              fun row => (quote row pair.2).toOption) := by
      intro group _
      rw [result_quoteId fun row hrow => hplain _ (mem_of_valueAt? hrow), List.filterMap_map]
      rfl
    rw [if_neg hids, hprices hids]
    simp only [bind, Except.bind, Outcome.result_collect hrows]
    refine ⟨_, rfl, (perm_flatMap_groupByLabel _ _ fun id (pair : String × Asset) =>
      (valueAt? (Spelling.ofText id) table).bind fun row => (quote row pair.2).toOption).trans ?_⟩
    rw [List.filterMap_filterMap]
    refine List.Perm.of_eq (List.filterMap_congr fun asset _ => ?_)
    cases hid : id? asset <;> simp [quoteIn?, hid]

end PriceBoard.Market
