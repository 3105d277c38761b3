import PriceBoard.Proofs.Pipeline.Reachable

/-!
# Reading an asset back

Assets are priced regardless of case, but the board is read by exact names.  What an asset is priced
at stands under one name, `publishedAs`, which depends on its owner: custom feeds have names of their
own, currencies are on the blockchain `FIAT` whatever was configured, and coins keep their names.

So an asset that is configured by the name it is published as can be read back by the name it is
configured by, and any other asset cannot: `lookup_published`.
-/

namespace PriceBoard.Pipeline

open Provider CoinInfo

variable {settings : Settings} {web : Web} {upstream : Route → Except Fault Reply} {now : Int}
  {occasion : Occasion} {asset : Asset} {quotation : Quotation} {record : CoinInfo}

/-! ## Published names -/

/-- The names of the custom feed that is in charge of the asset. -/
def customName? (settings : Settings) (asset : Asset) : Option Asset :=
  if Custom.isIndexToken asset then some ⟨Custom.indexBlockchain, Custom.indexSymbol⟩
  else
    ((crossRates settings).find? fun rate => rate.supports asset).map fun rate =>
      ⟨rate.blockchain, rate.symbol⟩

/-- The names under which the price of the asset is published. -/
def publishedAs (settings : Settings) (asset : Asset) : Asset :=
  match customName? settings asset with
  | some name => name
  | none => if fiatOwned settings asset then ⟨Fiat.blockchain, asset.symbol⟩ else asset

theorem customName?_congr {first second : Asset} (hnames : first.SameNames second) :
    customName? settings first = customName? settings second := by
  have hindex : Custom.isIndexToken first = Custom.isIndexToken second :=
    Asset.isNamed_congr hnames _ _
  have hrates : (fun rate : Custom.CrossRate => rate.supports first) =
      fun rate => rate.supports second :=
    funext fun rate => Asset.isNamed_congr hnames _ _
  rw [customName?, customName?, hindex, hrates]

theorem isSome_customName? : (customName? settings asset).isSome = customOwned settings asset := by
  unfold customName? customOwned
  cases Custom.isIndexToken asset with
  | true => rfl
  | false => simp [List.isSome_find?]

theorem customName?_eq_none (howned : customOwned settings asset = false) :
    customName? settings asset = none := by
  rw [← isSome_customName?] at howned
  simpa using howned

theorem sameNames_customName? {name : Asset} (hname : customName? settings asset = some name) :
    asset.SameNames name := by
  unfold customName? at hname
  split_ifs at hname with hindex
  · cases hname
    exact Asset.isNamed_iff.mp hindex
  · obtain ⟨rate, hrate, rfl⟩ := Option.map_eq_some_iff.mp hname
    have hsupports : rate.supports asset = true := by simpa using List.find?_some hrate
    exact Asset.isNamed_iff.mp hsupports

/-- On the blockchain of currencies a currency has the same owner. -/
theorem owner_on_fiat (howned : fiatOwned settings asset = true) :
    asset.SameNames ⟨Fiat.blockchain, asset.symbol⟩ ∧
      fiatOwned settings ⟨Fiat.blockchain, asset.symbol⟩ = true := by
  have hcurrency := isSome_sourceCurrency?_of_fiatOwned howned
  have hupper : Text.upper Fiat.blockchain = Fiat.blockchain := by decide
  have hsame : asset.SameNames ⟨Fiat.blockchain, asset.symbol⟩ :=
    ⟨(Fiat.upper_blockchain hcurrency).trans hupper.symm, rfl⟩
  have hpair : (Fiat.sourceCurrency? ⟨Fiat.blockchain, asset.symbol⟩).isSome = true := by
    rw [← hcurrency]
    simp only [Fiat.sourceCurrency?, Fiat.upper_blockchain hcurrency, hupper]
  simp only [fiatOwned, Bool.and_eq_true, ← customOwned_congr hsame] at howned ⊢
  exact ⟨hsame, howned.1, hpair⟩

theorem publishedAs_of_customName {name : Asset} (hname : customName? settings asset = some name) :
    publishedAs settings asset = name := by
  simp [publishedAs, hname]

theorem publishedAs_of_fiatOwned (howned : fiatOwned settings asset = true) :
    publishedAs settings asset = ⟨Fiat.blockchain, asset.symbol⟩ := by
  simp [publishedAs, customName?_eq_none (not_customOwned_of_fiatOwned howned), howned]

theorem publishedAs_of_not_owned (hcustom : customOwned settings asset = false)
    (hfiat : fiatOwned settings asset = false) : publishedAs settings asset = asset := by
  simp [publishedAs, customName?_eq_none hcustom, hfiat]

theorem publishedAs_cases (settings : Settings) (asset : Asset) :
    (∃ name, customName? settings asset = some name ∧ publishedAs settings asset = name) ∨
      (fiatOwned settings asset = true ∧
        publishedAs settings asset = ⟨Fiat.blockchain, asset.symbol⟩) ∨
      publishedAs settings asset = asset := by
  cases hname : customName? settings asset with
  | some name => exact .inl ⟨name, rfl, publishedAs_of_customName hname⟩
  | none =>
      cases hfiat : fiatOwned settings asset with
      | true => exact .inr (.inl ⟨rfl, publishedAs_of_fiatOwned hfiat⟩)
      | false => exact .inr (.inr (by simp [publishedAs, hname, hfiat]))

/-- A published name is a spelling of the asset. -/
theorem sameNames_publishedAs (settings : Settings) (asset : Asset) :
    asset.SameNames (publishedAs settings asset) := by
  rcases publishedAs_cases settings asset with ⟨name, hname, hcustom⟩ | ⟨howned, hfiat⟩ | hsame
  · rw [hcustom]
    exact sameNames_customName? hname
  · rw [hfiat]
    exact (owner_on_fiat howned).1
  · rw [hsame]
    exact ⟨rfl, rfl⟩

/-- A published name is published as it stands. -/
theorem publishedAs_publishedAs (settings : Settings) (asset : Asset) :
    publishedAs settings (publishedAs settings asset) = publishedAs settings asset := by
  rcases publishedAs_cases settings asset with ⟨name, hname, hcustom⟩ | ⟨howned, hfiat⟩ | hsame
  · have hagain : customName? settings name = some name := by
      rw [← customName?_congr (sameNames_customName? hname), hname]
    rw [hcustom, publishedAs_of_customName hagain]
  · rw [hfiat, publishedAs_of_fiatOwned (owner_on_fiat howned).2]
  · rw [hsame, hsame]

theorem keyOf_custom
    (hquotation : (Custom.quotation (feeds settings web now) asset).result = .ok quotation) :
    customName? settings asset = some (keyOf quotation) := by
  unfold Custom.quotation at hquotation
  rw [feedFor?_feeds] at hquotation
  unfold customName?
  split_ifs at hquotation ⊢ with hindex
  · obtain ⟨hblockchain, hsymbol⟩ := Custom.names_of_indexFeed hquotation
    rw [CoinInfo.keyOf_eq hblockchain (by simp [Custom.indexBlockchain]) hsymbol]
  · cases hrate : (crossRates settings).find? fun rate => rate.supports asset with
    | none =>
        rw [hrate] at hquotation
        cases hquotation
    | some rate =>
        rw [hrate] at hquotation
        obtain ⟨hblockchain, hsymbol⟩ := Custom.names_of_crossRate hquotation
        have hfiat := blockchain_of_mem_crossRates (List.mem_of_find?_eq_some hrate)
        rw [CoinInfo.keyOf_eq hblockchain (by simp [hfiat]) hsymbol]
        rfl

/-- Whatever owns an asset publishes it under its published name. -/
theorem Quoted.keyOf_eq (hquoted : Quoted settings upstream now asset quotation) :
    keyOf quotation = publishedAs settings asset := by
  cases hquoted with
  | custom howned hquotation => exact (publishedAs_of_customName (keyOf_custom hquotation)).symm
  | fiat key hkey howned hquotation =>
      rw [keyOf_fiat hquotation, publishedAs_of_fiatOwned howned, Fiat.blockchain]
  | market key hkey howned hquotation =>
      rw [(keyOf_market hquotation).1, publishedAs_of_not_owned
        (not_customOwned_of_marketOwned howned) (not_fiatOwned_of_marketOwned howned)]

/-! ## Boards -/

/-- What an asset obtains is shown under its published name, if the batch comes to its end. -/
theorem get?_publishedAs (hcompleted : Completed settings occasion)
    (hasset : asset ∈ settings.currencies)
    (hobtained : obtainedOn? settings occasion asset = some quotation)
    (hpos : 0 < quotation.price.value) (hrecord : ofQuotation quotation = .ok record) :
    (boardOn settings occasion).get? (publishedAs settings asset) = some record := by
  have hkey : keyOf quotation = publishedAs settings asset :=
    (quoted_of_obtained? hobtained).keyOf_eq
  exact (get?_boardOn hcompleted).mpr ⟨asset, hasset, quotation, hobtained, hpos, hrecord, hkey⟩

/-- Nothing is shown under a name that is not a published one. -/
theorem get?_of_ne_publishedAs (hname : publishedAs settings asset ≠ asset) :
    (boardOn settings occasion).get? asset = none := by
  rw [Option.eq_none_iff_forall_ne_some]
  intro record hrecord
  obtain ⟨other, -, quotation, hobtained, -, -, hkey⟩ := obtained_of_boardOn hrecord
  have hpublished : publishedAs settings other = asset :=
    (quoted_of_obtained? hobtained).keyOf_eq.symm.trans hkey
  refine hname ?_
  rw [← hpublished, publishedAs_publishedAs]

/-- After any cycle of a pipeline in any state, if its batch came to its end: if the owner of a
configured asset obtained a price above zero that can be converted, then the asset has exactly one
record under the names that it is published as.  Under the names that it is configured by it has this
record if they are the same, and otherwise none. -/
theorem lookup_published (settings : Settings) (events : List Event) (occasion : Occasion)
    (hcompleted : Completed settings occasion) (asset : Asset) (quotation : Quotation) (price : Nat)
    (hasset : asset ∈ settings.currencies)
    (hobtained : obtainedOn? settings occasion asset = some quotation)
    (hpos : 0 < quotation.price.value)
    (hprice : FixedPoint.ofNumeral quotation.price = .ok price) :
    let board :=
      (((build settings).run events).cycleOn occasion).pipeline.worker.updater.board
    let name := publishedAs settings asset
    ∃ record : CoinInfo, record.blockchain = name.blockchain ∧ record.symbol = name.symbol ∧
      record.price = price ∧ board.lookup [name] = [record] ∧
        board.lookup [asset] = if name = asset then [record] else [] := by
  intro board name
  have hboard : board = boardOn settings occasion :=
    (serving_run settings events).board_cycleOn occasion
  obtain ⟨record, hrecord⟩ : ∃ record, ofQuotation quotation = .ok record :=
    exists_record_iff.mpr ⟨price, hprice⟩
  have hkey : record.asset = name :=
    (asset_ofQuotation hrecord).trans (quoted_of_obtained? hobtained).keyOf_eq
  have hshown : board.get? name = some record := by
    rw [hboard]
    exact get?_publishedAs hcompleted hasset hobtained hpos hrecord
  have hvalue : record.price = price := by
    obtain ⟨other, hother, rfl⟩ := ofQuotation_eq_ok_iff.mp hrecord
    cases hprice.symm.trans hother
    rfl
  have hlookup : board.lookup [name] = [record] := by
    rw [Board.lookup_singleton, hshown, Option.toList_some]
  refine ⟨record, congrArg Asset.blockchain hkey, congrArg Asset.symbol hkey, hvalue, hlookup, ?_⟩
  split_ifs with hname
  · rwa [hname] at hlookup
  · have hnone : board.get? asset = none := by
      rw [hboard]
      exact get?_of_ne_publishedAs hname
    rw [Board.lookup_singleton, hnone, Option.toList_none]

/-! ## The dollar in two spellings -/

/-- Settings with a key for the forex provider and one asset, a dollar in dollars. -/
def dollarSettings (blockchain : String) : Settings :=
  { forexSettings with currencies := [⟨blockchain, "USD-USD"⟩] }

/-- The quotation of a dollar. -/
def dollarQuotation : Quotation :=
  ⟨"USD-USD", "USD-USD", some "FIAT", .one, .zero, 1700000000⟩

theorem obtainedOn?_dollar {blockchain : String} (hfiat : blockchain = "FIAT" ∨ blockchain = "fiat") :
    obtainedOn? (dollarSettings blockchain) silentOccasion ⟨blockchain, "USD-USD"⟩ =
      some dollarQuotation := by
  rcases hfiat with rfl | rfl
  · rfl
  · rfl

theorem pos_dollarQuotation : 0 < dollarQuotation.price.value := by
  norm_num [dollarQuotation, Numeral.value, Numeral.signedCoefficient, Numeral.one]

theorem ofNumeral_dollar : FixedPoint.ofNumeral dollarQuotation.price = .ok 1000000000000 := by
  rw [FixedPoint.ofNumeral_of_pos pos_dollarQuotation]
  norm_num [dollarQuotation, Numeral.value, Numeral.signedCoefficient, Numeral.one]

theorem lookup_published_dollar :
    Completed (dollarSettings "FIAT") silentOccasion ∧
    ∃ record : CoinInfo, record.blockchain = "FIAT" ∧ record.symbol = "USD-USD" ∧
      record.price = 1000000000000 ∧
      (((build (dollarSettings "FIAT")).run [.byHand silentOccasion]).cycleOn
        silentOccasion).pipeline.worker.updater.board.lookup [⟨"FIAT", "USD-USD"⟩] = [record] := by
  have hcompleted : Completed (dollarSettings "FIAT") silentOccasion :=
    completed_of_printable _ printable_silentOccasion
  obtain ⟨record, hblockchain, hsymbol, hprice, hlookup, -⟩ :=
    lookup_published (dollarSettings "FIAT") [.byHand silentOccasion] silentOccasion hcompleted
      ⟨"FIAT", "USD-USD"⟩ dollarQuotation 1000000000000 List.mem_cons_self
      (obtainedOn?_dollar (.inl rfl)) pos_dollarQuotation ofNumeral_dollar
  have hname : publishedAs (dollarSettings "FIAT") ⟨"FIAT", "USD-USD"⟩ = ⟨"FIAT", "USD-USD"⟩ := rfl
  rw [hname] at hblockchain hsymbol hlookup
  exact ⟨hcompleted, record, hblockchain, hsymbol, hprice, hlookup⟩

/-- A dollar that is configured on the blockchain `fiat` is not found there. -/
theorem not_read_back_in_lower_case :
    ¬ ∀ (written : String) (settings : Settings) (occasion : Occasion) (asset : Asset)
      (quotation : Quotation) (price : Nat),
      Settings.currenciesOfText written = .ok settings.currencies →
      asset ∈ settings.currencies →
      obtainedOn? settings occasion asset = some quotation → 0 < quotation.price.value →
      FixedPoint.ofNumeral quotation.price = .ok price →
      ∃ record : CoinInfo, ((build settings).cycleOn
          occasion).pipeline.worker.updater.board.lookup [asset] = [record] ∧
        record.blockchain = asset.blockchain ∧ record.symbol = asset.symbol := by
  intro hread
  have hboard : ((build (dollarSettings "fiat")).cycleOn
      silentOccasion).pipeline.worker.updater.board =
        boardOn (dollarSettings "fiat") silentOccasion :=
    (serving_build _).board_cycleOn silentOccasion
  obtain ⟨record, hlookup, -⟩ := hread "fiat:USD-USD" (dollarSettings "fiat") silentOccasion
    ⟨"fiat", "USD-USD"⟩ dollarQuotation 1000000000000 (by decide) List.mem_cons_self
    (obtainedOn?_dollar (.inr rfl)) pos_dollarQuotation ofNumeral_dollar
  have hnone : (boardOn (dollarSettings "fiat") silentOccasion).get? ⟨"fiat", "USD-USD"⟩ = none :=
    get?_of_ne_publishedAs (by decide)
  rw [hboard, Board.lookup_singleton, hnone] at hlookup
  cases hlookup

end PriceBoard.Pipeline
