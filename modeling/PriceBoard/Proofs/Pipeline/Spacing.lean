import PriceBoard.Proofs.Pipeline.Additivity
import PriceBoard.Proofs.Source.Pair

/-!
# Pairs with blanks in them

A pair of currencies is looked at in two ways.  A cross rate compares its whole name, regardless of
case.  The fiat source cuts the name at its hyphen, trims both parts, and only then puts them into
upper case.  So `ars-usd` is the pair of the cross rate for both of them, but `ARS - USD` is so for
the fiat source only, and there it is a currency like any other.

`share_of_crossCurrency` says who gets the pairs of a currency with a cross rate: the custom source
those without blanks around their parts, and the fiat source all others.
-/

namespace PriceBoard.Pipeline

open Provider (Web)

variable {settings : Settings} {asset : Asset} {currency : String}

/-! ## Currencies with a cross rate -/

/-- The currencies that have a cross rate. -/
def crossCurrencies (settings : Settings) : List String :=
  "ARS" :: if settings.brlCrossRate then ["BRL"] else []

theorem symbols_crossRates (settings : Settings) :
    (crossRates settings).map Custom.CrossRate.symbol =
      (crossCurrencies settings).map fun name => name ++ "-" ++ Fiat.target := by
  unfold crossRates crossCurrencies
  cases settings.brlCrossRate with
  | true => rfl
  | false => rfl

theorem mem_known_of_mem_crossCurrencies (hcross : currency ∈ crossCurrencies settings) :
    currency ∈ ["ARS", "BRL"] := by
  unfold crossCurrencies at hcross
  cases hbrl : settings.brlCrossRate with
  | true => simpa [hbrl] using hcross
  | false => simp_all

/-- The index is on another blockchain than the currencies. -/
theorem isIndexToken_of_sourceCurrency? (hcurrency : Fiat.sourceCurrency? asset = some currency) :
    Custom.isIndexToken asset = false := by
  have hblockchain := Fiat.upper_blockchain (by rw [hcurrency]; rfl)
  have hother : (Fiat.blockchain == Text.upper Custom.indexBlockchain) = false := by decide
  rw [Custom.isIndexToken, Asset.isNamed, hblockchain, hother, Bool.false_and]

/-- A cross rate looks at the whole name. -/
theorem supports_iff {rate : Custom.CrossRate} (hrate : rate ∈ crossRates settings)
    (hcurrency : Fiat.sourceCurrency? asset = some currency) :
    rate.supports asset = true ↔ Text.upper asset.symbol = rate.symbol := by
  have hblockchain := Fiat.upper_blockchain (by rw [hcurrency]; rfl)
  have hupper : Text.upper rate.blockchain = Fiat.blockchain := by
    rw [blockchain_of_mem_crossRates hrate]
    rfl
  have hsymbol : Text.upper rate.symbol = rate.symbol := by
    have hmem := List.mem_map_of_mem (f := Custom.CrossRate.symbol) hrate
    rw [symbols_crossRates] at hmem
    obtain ⟨name, hname, hsame⟩ := List.mem_map.mp hmem
    rw [← hsame]
    have hnames : ∀ name ∈ ["ARS", "BRL"],
        Text.upper (name ++ "-" ++ Fiat.target) = name ++ "-" ++ Fiat.target := by
      decide
    exact hnames name (mem_known_of_mem_crossCurrencies hname)
  simp [Custom.CrossRate.supports, Asset.isNamed, hblockchain, hupper, hsymbol]

/-- A pair of a currency with a cross rate has the name of a cross rate just if it has its own. -/
theorem exists_name_iff (hcurrency : Fiat.sourceCurrency? asset = some currency)
    (hcross : currency ∈ crossCurrencies settings) :
    (∃ name ∈ crossCurrencies settings, Text.upper asset.symbol = name ++ "-" ++ Fiat.target) ↔
      Text.upper asset.symbol = currency ++ "-" ++ Fiat.target := by
  constructor
  · rintro ⟨name, hname, hsymbol⟩
    -- with blanks in front a pair could have a longer name, but none of these is part of another
    have hnames : ∀ first ∈ ["ARS", "BRL"], ∀ second ∈ ["ARS", "BRL"],
        '-' ∉ second.toList ∧ (first.toList.Sublist second.toList → first = second) := by
      decide
    obtain ⟨hfree, hsame⟩ := hnames currency (mem_known_of_mem_crossCurrencies hcross) name
      (mem_known_of_mem_crossCurrencies hname)
    rwa [hsame (Fiat.sublist_of_upper_symbol hcurrency hfree hsymbol)]
  · intro hsymbol
    exact ⟨currency, hcross, hsymbol⟩

/-- The custom source is in charge of the pairs without blanks. -/
theorem customOwned_iff_isUnspaced (hcurrency : Fiat.sourceCurrency? asset = some currency)
    (hcross : currency ∈ crossCurrencies settings) :
    customOwned settings asset = true ↔ Fiat.IsUnspaced asset := by
  calc customOwned settings asset = true
      ↔ ∃ rate ∈ crossRates settings, rate.supports asset = true := by
        rw [customOwned, isIndexToken_of_sourceCurrency? hcurrency, Bool.false_or, List.any_eq_true]
    _ ↔ ∃ rate ∈ crossRates settings, Text.upper asset.symbol = rate.symbol :=
        exists_congr fun rate => and_congr_right fun hrate => supports_iff hrate hcurrency
    _ ↔ Text.upper asset.symbol ∈ (crossRates settings).map Custom.CrossRate.symbol := by
        simp only [List.mem_map, eq_comm]
    _ ↔ ∃ name ∈ crossCurrencies settings,
          Text.upper asset.symbol = name ++ "-" ++ Fiat.target := by
        rw [symbols_crossRates]
        simp only [List.mem_map, eq_comm]
    _ ↔ Text.upper asset.symbol = currency ++ "-" ++ Fiat.target :=
        exists_name_iff hcurrency hcross
    _ ↔ Fiat.IsUnspaced asset := Fiat.upper_symbol_eq_iff hcurrency

/-! ## Shares -/

/-- **Who gets a pair of a currency with a cross rate.**  Whatever the letter case, the custom
source gets it if there are no blanks around its parts, and the fiat source if there are.  No other
source of the pipeline gets it then. -/
theorem share_of_crossCurrency (settings : Settings) (key : String) (web : Web) (now : Int)
    (assets : List Asset) (asset : Asset) (hkey : settings.forexKey = some key)
    (hasset : asset ∈ assets)
    (hcurrency : Fiat.sourceCurrency? asset = some "ARS" ∨
      settings.brlCrossRate = true ∧ Fiat.sourceCurrency? asset = some "BRL") :
    let shares := (Dispatch.partition (sources settings web now) assets).1
    let owner := if Fiat.IsUnspaced asset then "custom" else "fiat"
    (∃ entry ∈ shares, entry.1.name = owner) ∧
      ∀ entry ∈ shares, asset ∈ entry.2 ↔ entry.1.name = owner := by
  intro shares owner
  have howned : customOwned settings asset = true ↔ Fiat.IsUnspaced asset := by
    rcases hcurrency with hars | ⟨hbrl, hbrlCurrency⟩
    · exact customOwned_iff_isUnspaced hars (by simp [crossCurrencies])
    · exact customOwned_iff_isUnspaced hbrlCurrency (by simp [crossCurrencies, hbrl])
  have hpair : (Fiat.sourceCurrency? asset).isSome = true := by
    rcases hcurrency with hars | ⟨-, hbrl⟩
    · rw [hars]
      rfl
    · rw [hbrl]
      rfl
  have hdistinct := mem_distinct.mpr hasset
  by_cases hspaces : Fiat.IsUnspaced asset
  · have hcustom := howned.mpr hspaces
    have howner : owner = "custom" := if_pos hspaces
    refine ⟨⟨_, mem_partition_sources.mpr (.inl rfl), howner.symm⟩, fun entry hentry => ?_⟩
    rw [howner]
    rcases mem_partition_sources.mp hentry with rfl | ⟨_, _, rfl⟩ | ⟨_, _, rfl⟩
    · simp [hdistinct, hcustom, Custom.source]
    · simp [fiatOwned, hcustom, Fiat.source]
    · simp [marketOwned, hcustom, Market.source]
  · have hcustom : customOwned settings asset = false := by
      rw [← Bool.not_eq_true, howned]
      exact hspaces
    have hfiat : fiatOwned settings asset = true := by
      simp [fiatOwned, hkey, hcustom, hpair]
    have howner : owner = "fiat" := if_neg hspaces
    refine ⟨⟨_, mem_partition_sources.mpr (.inr (.inl ⟨key, hkey, rfl⟩)), howner.symm⟩,
      fun entry hentry => ?_⟩
    rw [howner]
    rcases mem_partition_sources.mp hentry with rfl | ⟨_, _, rfl⟩ | ⟨_, _, rfl⟩
    · simp [hcustom, Custom.source]
    · simp [hdistinct, hfiat, Fiat.source]
    · simp [marketOwned, hfiat, Market.source]

theorem share_of_crossCurrency_lowerCase :
    let web : Web := fun _ => .error (.timeout "no answer")
    let asset : Asset := ⟨"fiat", "ars-usd"⟩
    forexSettings.forexKey = some "key" ∧ Fiat.sourceCurrency? asset = some "ARS" ∧
      ∀ entry ∈ (Dispatch.partition (sources forexSettings web 0) [asset]).1,
        asset ∈ entry.2 ↔ entry.1.name = "custom" :=
  ⟨rfl, by decide, (share_of_crossCurrency forexSettings "key" _ 0 [⟨"fiat", "ars-usd"⟩]
    ⟨"fiat", "ars-usd"⟩ rfl List.mem_cons_self (.inl (by decide))).2⟩

/-- A pair with blanks around its hyphen is a currency like any other. -/
theorem not_custom_with_blanks :
    ¬ ∀ (settings : Settings) (key : String) (web : Web) (now : Int) (assets : List Asset)
      (asset : Asset), settings.forexKey = some key → asset ∈ assets →
      (Fiat.sourceCurrency? asset = some "ARS" ∨
        settings.brlCrossRate = true ∧ Fiat.sourceCurrency? asset = some "BRL") →
      ∀ entry ∈ (Dispatch.partition (sources settings web now) assets).1,
        asset ∈ entry.2 ↔ entry.1.name = "custom" := by
  intro hcustom
  let web : Web := fun _ => .error (.timeout "no answer")
  let asset : Asset := ⟨"FIAT", "ARS - USD"⟩
  have hentry : (Fiat.source (fiatRows forexSettings "key" web) 0,
      (distinct [asset]).filter (fiatOwned forexSettings)) ∈
        (Dispatch.partition (sources forexSettings web 0) [asset]).1 :=
    mem_partition_sources.mpr (.inr (.inl ⟨"key", rfl, rfl⟩))
  have hshare : asset ∈ (distinct [asset]).filter (fiatOwned forexSettings) := by
    decide
  have hname := (hcustom forexSettings "key" web 0 [asset] asset rfl List.mem_cons_self
    (.inl (by decide)) _ hentry).mp hshare
  exact absurd hname (by simp [Fiat.source])

end PriceBoard.Pipeline
