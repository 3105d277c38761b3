import PriceBoard.Proofs.Pipeline.ReadBack

/-!
# Assets that share a record

Assets are told apart by their exact names, but they are priced regardless of case.  So two assets of
one universe may be published under one name, and the board then shows one record for both: the
count of what was published is the number of assets that are priced, and the size of the board is
the number of their published names (`published_of_cycle`).

Which assets share a name is settled by their owners (`publishedAs_eq_iff`).  All spellings of an
asset that has a custom feed share the name of the feed, currencies share a name if their symbols
agree to the letter, and no coin shares its name.
-/

namespace PriceBoard.Pipeline

open Provider CoinInfo

variable {settings : Settings} {occasion : Occasion} {occasions : List Occasion}
  {pipeline : Pipeline} {first second asset : Asset} {record : CoinInfo}

/-! ## Shared names -/

/-- What is published on the blockchain of currencies, and by no custom feed, is a currency. -/
theorem publishedAs_ne_of_fiatOwned (hfirst : fiatOwned settings first = true)
    (hcustom : customOwned settings second = false) (hsecond : fiatOwned settings second = false) :
    publishedAs settings first ≠ publishedAs settings second := by
  rw [publishedAs_of_fiatOwned hfirst, publishedAs_of_not_owned hcustom hsecond]
  intro hname
  have howned := (owner_on_fiat hfirst).2
  rw [hname, hsecond] at howned
  cases howned

/-- Two assets are published under one name just if they are spellings of one asset with a custom
feed, or currencies with the same symbol. -/
theorem publishedAs_eq_iff (settings : Settings) (first second : Asset) :
    publishedAs settings first = publishedAs settings second ↔
      first = second ∨ first.SameNames second ∧
        (customOwned settings first = true ∨
          fiatOwned settings first = true ∧ fiatOwned settings second = true ∧
            first.symbol = second.symbol) := by
  constructor
  · intro hname
    have hnames : first.SameNames second := by
      have hfirst := sameNames_publishedAs settings first
      have hsecond := sameNames_publishedAs settings second
      rw [hname] at hfirst
      exact ⟨hfirst.1.trans hsecond.1.symm, hfirst.2.trans hsecond.2.symm⟩
    cases hcustom : customOwned settings first with
    | true => exact .inr ⟨hnames, .inl rfl⟩
    | false =>
        have hother : customOwned settings second = false := by
          rwa [← customOwned_congr hnames]
        cases hfirst : fiatOwned settings first with
        | true =>
            cases hsecond : fiatOwned settings second with
            | true =>
                rw [publishedAs_of_fiatOwned hfirst, publishedAs_of_fiatOwned hsecond] at hname
                exact .inr ⟨hnames, .inr ⟨rfl, rfl, (Asset.mk.inj hname).2⟩⟩
            | false => exact absurd hname (publishedAs_ne_of_fiatOwned hfirst hother hsecond)
        | false =>
            cases hsecond : fiatOwned settings second with
            | true => exact absurd hname.symm (publishedAs_ne_of_fiatOwned hsecond hcustom hfirst)
            | false =>
                rw [publishedAs_of_not_owned hcustom hfirst,
                  publishedAs_of_not_owned hother hsecond] at hname
                exact .inl hname
  · rintro (rfl | ⟨hnames, hcustom | ⟨hfirst, hsecond, hsymbol⟩⟩)
    · rfl
    · obtain ⟨name, hname⟩ := Option.isSome_iff_exists.mp (isSome_customName?.trans hcustom)
      rw [publishedAs_of_customName hname,
        publishedAs_of_customName ((customName?_congr hnames).symm.trans hname)]
    · rw [publishedAs_of_fiatOwned hfirst, publishedAs_of_fiatOwned hsecond, hsymbol]

/-! ## What is published -/

/-- The record that the asset has on the occasion, if it is priced above zero. -/
def recordOn? (settings : Settings) (occasion : Occasion) (asset : Asset) : Option CoinInfo :=
  ((obtainedOn? settings occasion asset).filter fun quotation => quotation.price.isPositive).bind
    fun quotation => (ofQuotation quotation).toOption

/-- The assets that are published on the occasion. -/
def shownOn (settings : Settings) (occasion : Occasion) : List Asset :=
  (distinct settings.currencies).filter fun asset => (recordOn? settings occasion asset).isSome

/-- The published assets are those that obtain a price above zero that can be converted. -/
theorem mem_shownOn : asset ∈ shownOn settings occasion ↔
    asset ∈ settings.currencies ∧ ∃ quotation price,
      obtainedOn? settings occasion asset = some quotation ∧ 0 < quotation.price.value ∧
        FixedPoint.ofNumeral quotation.price = .ok price := by
  have hsome : (recordOn? settings occasion asset).isSome = true ↔ ∃ quotation,
      obtainedOn? settings occasion asset = some quotation ∧ 0 < quotation.price.value ∧
        ∃ record, ofQuotation quotation = .ok record := by
    simp only [Option.isSome_iff_exists, recordOn?, Option.bind_eq_some_iff,
      Option.filter_eq_some_iff, Numeral.isPositive_iff, toOption_eq_some_iff]
    constructor
    · rintro ⟨record, quotation, ⟨hobtained, hpos⟩, hrecord⟩
      exact ⟨quotation, hobtained, hpos, record, hrecord⟩
    · rintro ⟨quotation, hobtained, hpos, record, hrecord⟩
      exact ⟨record, quotation, ⟨hobtained, hpos⟩, hrecord⟩
  rw [shownOn, List.mem_filter, mem_distinct, hsome]
  simp only [exists_record_iff, exists_and_left]

/-- A record has the published name of its asset. -/
theorem asset_of_recordOn? (hrecord : recordOn? settings occasion asset = some record) :
    record.asset = publishedAs settings asset := by
  obtain ⟨quotation, hquotation, hrecord⟩ := Option.bind_eq_some_iff.mp hrecord
  have hobtained := (Option.filter_eq_some_iff.mp hquotation).1
  rw [asset_ofQuotation (toOption_eq_some_iff.mp hrecord)]
  exact (quoted_of_obtained? hobtained).keyOf_eq

theorem perm_recordsOf_batchOn (settings : Settings) (occasion : Occasion) :
    (Updater.recordsOf (batchOn settings occasion).quotations).Perm
      ((distinct settings.currencies).filterMap (recordOn? settings occasion)) := by
  have hperm := (perm_batchOn settings occasion).filterMap
    fun quotation => (ofQuotation quotation).toOption
  rwa [List.filterMap_filterMap] at hperm

/-- The names under which a batch is published are those of the assets that are. -/
theorem perm_map_asset_recordsOf (settings : Settings) (occasion : Occasion) :
    ((Updater.recordsOf (batchOn settings occasion).quotations).map CoinInfo.asset).Perm
      ((shownOn settings occasion).map (publishedAs settings)) := by
  have hassets : ((distinct settings.currencies).filterMap (recordOn? settings occasion)).map
      CoinInfo.asset = (shownOn settings occasion).map (publishedAs settings) := by
    unfold shownOn
    induction distinct settings.currencies with
    | nil => rfl
    | cons asset others ih =>
        cases hrecord : recordOn? settings occasion asset with
        | none => simpa [hrecord] using ih
        | some record => simpa [hrecord, asset_of_recordOn? hrecord] using ih
  rw [← hassets]
  exact (perm_recordsOf_batchOn settings occasion).map _

theorem length_recordsOf_batchOn (settings : Settings) (occasion : Occasion) :
    (Updater.recordsOf (batchOn settings occasion).quotations).length =
      (shownOn settings occasion).length := by
  simpa using (perm_map_asset_recordsOf settings occasion).length_eq

theorem size_boardOn (hcompleted : Completed settings occasion) :
    (boardOn settings occasion).size =
      ((shownOn settings occasion).map (publishedAs settings)).toFinset.card := by
  rw [boardOn, Board.size_publish, hcompleted.quotations_inputOn,
    List.toFinset_eq_of_perm _ _ (perm_map_asset_recordsOf settings occasion)]

/-! ## Cycles -/

/-- A cycle publishes the assets that are shown on its occasion. -/
theorem Serving.published_after (hserving : Serving settings occasions pipeline) {event : Event}
    (hcompleted : Completed settings occasion) (hruns : pipeline.runsOn? event = some occasion) :
    (pipeline.after event).worker.updater.status.lastPublished =
        (shownOn settings occasion).length ∧
      (pipeline.after event).worker.updater.board = boardOn settings occasion := by
  obtain ⟨-, -, hcycle⟩ := hserving.after_of_runsOn? hruns
  have hpublished : (pipeline.worker.updater.runOnce
      ((build settings).inputOn occasion)).updater.status.lastPublished = _ :=
    Updater.lastPublished_runOnce rfl _
  have hboard : (pipeline.worker.updater.runOnce
      ((build settings).inputOn occasion)).updater.board = boardOn settings occasion :=
    Updater.board_runOnce rfl _
  rw [hcompleted.quotations_inputOn, length_recordsOf_batchOn] at hpublished
  rcases hcycle with hcycle | hcycle
  · rw [hcycle]
    exact ⟨hpublished, hboard⟩
  · rw [hcycle, Updater.lastPublished_iterate, Updater.board_iterate]
    exact ⟨hpublished, hboard⟩

/-- After any cycle of a pipeline in any state, if its batch came to its end: published is one
quotation for each asset that obtained a price above zero that can be converted, under the name that
the asset is published as.  The size of the board is the number of these names.  So the count and the
size agree just if no two of the assets share a name, and this they do not if no two assets of the
universe are spellings of one another. -/
theorem published_of_cycle (settings : Settings) (events : List Event) (event : Event)
    (occasion : Occasion) (hruns : ((build settings).run events).runsOn? event = some occasion)
    (hcompleted : Completed settings occasion) :
    let updater := (((build settings).run events).after event).worker.updater
    let published := (Updater.recordsOf (batchOn settings occasion).quotations).map CoinInfo.asset
    let shown := shownOn settings occasion
    let name := publishedAs settings
    published.Perm (shown.map name) ∧
      updater.status.lastPublished = shown.length ∧
      updater.board.size = (shown.map name).toFinset.card ∧
      updater.board.size ≤ updater.status.lastPublished ∧
      (updater.status.lastPublished = updater.board.size ↔
        ∀ first ∈ shown, ∀ second ∈ shown, name first = name second → first = second) ∧
      (∀ first second, name first = name second ↔
        first = second ∨ first.SameNames second ∧
          (customOwned settings first = true ∨
            fiatOwned settings first = true ∧ fiatOwned settings second = true ∧
              first.symbol = second.symbol)) ∧
      ((∀ first ∈ settings.currencies, ∀ second ∈ settings.currencies,
          first.SameNames second → first = second) →
        updater.status.lastPublished = updater.board.size) := by
  intro updater published shown name
  obtain ⟨hpublished, hboard⟩ := (serving_run settings events).published_after hcompleted hruns
  have hsize : updater.board.size = (shown.map name).toFinset.card := by
    rw [show updater.board = boardOn settings occasion from hboard]
    exact size_boardOn hcompleted
  have hlength : updater.status.lastPublished = (shown.map name).length := by
    rw [List.length_map]
    exact hpublished
  have hagree : updater.status.lastPublished = updater.board.size ↔
      ∀ first ∈ shown, ∀ second ∈ shown, name first = name second → first = second := by
    have hshown : shown.Nodup := (nodup_distinct settings.currencies).filter _
    have hcard := Multiset.toFinset_card_eq_card_iff_nodup (m := (↑(shown.map name) : Multiset Asset))
    rw [← List.nodup_map_iff_inj_on hshown, hlength, hsize, eq_comm]
    exact hcard
  refine ⟨perm_map_asset_recordsOf settings occasion, hpublished, hsize, ?_, hagree,
    publishedAs_eq_iff settings, ?_⟩
  · rw [hsize, hlength]
    exact List.toFinset_card_le _
  · intro hspellings
    rw [hagree]
    intro first hfirst second hsecond hname
    rcases (publishedAs_eq_iff settings first second).mp hname with hsame | ⟨hnames, -⟩
    · exact hsame
    · exact hspellings first (mem_shownOn.mp hfirst).1 second (mem_shownOn.mp hsecond).1 hnames

/-! ## The dollar in two spellings -/

/-- Settings with a dollar in two spellings. -/
def spellingSettings : Settings :=
  { forexSettings with currencies := [⟨"FIAT", "USD-USD"⟩, ⟨"fiat", "USD-USD"⟩] }

theorem shownOn_spellings :
    shownOn spellingSettings silentOccasion = [⟨"FIAT", "USD-USD"⟩, ⟨"fiat", "USD-USD"⟩] := by
  obtain ⟨record, hrecord⟩ : ∃ record, ofQuotation dollarQuotation = .ok record :=
    exists_record_iff.mpr ⟨_, ofNumeral_dollar⟩
  have hpositive : dollarQuotation.price.isPositive = true :=
    (Numeral.isPositive_iff _).mpr pos_dollarQuotation
  have hshown : ∀ asset, obtainedOn? spellingSettings silentOccasion asset = some dollarQuotation →
      recordOn? spellingSettings silentOccasion asset = some record := by
    intro asset hobtained
    exact Option.bind_eq_some_iff.mpr ⟨dollarQuotation,
      Option.filter_eq_some_iff.mpr ⟨hobtained, hpositive⟩, toOption_eq_some_iff.mpr hrecord⟩
  have hfirst := hshown ⟨"FIAT", "USD-USD"⟩ rfl
  have hsecond := hshown ⟨"fiat", "USD-USD"⟩ rfl
  have hdistinct : distinct spellingSettings.currencies =
      [⟨"FIAT", "USD-USD"⟩, ⟨"fiat", "USD-USD"⟩] := by
    decide
  simp [shownOn, hdistinct, hfirst, hsecond]

theorem completed_spellings : Completed spellingSettings silentOccasion :=
  completed_of_printable _ printable_silentOccasion

theorem card_names_spellings :
    ((shownOn spellingSettings silentOccasion).map
      (publishedAs spellingSettings)).toFinset.card = 1 := by
  rw [shownOn_spellings]
  rfl

/-- Both spellings are published, and the board has one record. -/
theorem published_of_cycle_spellings :
    let before := (build spellingSettings).run [.start]
    let updater := (before.after (.onWorker silentOccasion)).worker.updater
    before.runsOn? (.onWorker silentOccasion) = some silentOccasion ∧
      Completed spellingSettings silentOccasion ∧
      updater.status.lastPublished = 2 ∧ updater.board.size = 1 := by
  obtain ⟨-, hpublished, hsize, -⟩ := published_of_cycle spellingSettings [.start]
    (.onWorker silentOccasion) silentOccasion rfl completed_spellings
  rw [card_names_spellings] at hsize
  rw [shownOn_spellings] at hpublished
  exact ⟨rfl, completed_spellings, hpublished, hsize⟩

/-- The count of what was published is not always the size of the board. -/
theorem not_published_once_each :
    ¬ ∀ (written : String) (settings : Settings) (occasion : Occasion),
      Settings.currenciesOfText written = .ok settings.currencies →
      let updater := ((build settings).after (.byHand occasion)).worker.updater
      updater.status.lastPublished = updater.board.size := by
  intro hequal
  have hsame : ((build spellingSettings).after (.byHand
      silentOccasion)).worker.updater.status.lastPublished = _ :=
    hequal "FIAT:USD-USD,fiat:USD-USD" spellingSettings silentOccasion (by decide)
  have hruns : (build spellingSettings).runsOn? (.byHand silentOccasion) = some silentOccasion := rfl
  obtain ⟨hpublished, hboard⟩ :=
    (serving_build spellingSettings).published_after completed_spellings hruns
  rw [hpublished, hboard, size_boardOn completed_spellings, card_names_spellings,
    shownOn_spellings] at hsame
  cases hsame

end PriceBoard.Pipeline
