import PriceBoard.Proofs.CoinInfo
import PriceBoard.Proofs.Pipeline.Upstream

/-!
# What a key says about a quotation

A quotation is published under a key, and two assets of a batch may have one key: in company they
would be in each other's way.  They are not, because the quotations are the same
(`eq_of_keyOf_eq`).

The key of a quotation is a spelling of its asset (`Quoted.sameNames`), and so it tells which source
the quotation comes from: the custom source owns all spellings of an asset or none, currencies are
published on the blockchain `FIAT`, and coins are not.  Within a source the key is as good as the
asset: no custom feed looks at spellings, a currency is told by its symbol, and a coin has its own
names for a key.
-/

namespace PriceBoard

namespace Pipeline

open CoinInfo Provider

variable {settings : Settings} {web : Web} {upstream : Route → Except Fault Reply} {now : Int}

/-! ## Custom quotations -/

theorem customOwned_congr {first second : Asset} (hnames : first.SameNames second) :
    customOwned settings first = customOwned settings second := by
  simp only [customOwned, Custom.isIndexToken, Custom.CrossRate.supports,
    Asset.isNamed_congr hnames]

theorem feedFor?_congr {first second : Asset} (hnames : first.SameNames second) :
    Custom.feedFor? (feeds settings web now) first =
      Custom.feedFor? (feeds settings web now) second := by
  simp only [Custom.feedFor?, feeds, List.find?_cons, List.find?_map, Function.comp_def,
    Custom.indexFeed, Custom.CrossRate.feed, Custom.isIndexToken, Custom.CrossRate.supports,
    Asset.isNamed_congr hnames]

/-- All cross rates are on the blockchain of currencies. -/
theorem blockchain_of_mem_crossRates {rate : Custom.CrossRate}
    (hrate : rate ∈ crossRates settings) : rate.blockchain = "FIAT" := by
  unfold crossRates at hrate
  rcases List.mem_cons.mp hrate with rfl | hrate
  · rfl
  · split at hrate
    · cases List.mem_singleton.mp hrate
      rfl
    · cases hrate

/-- The key of a custom quotation is a spelling of the asset that was asked for. -/
theorem sameNames_of_custom {asset : Asset} {quotation : Quotation}
    (hquotation : (Custom.quotation (feeds settings web now) asset).result = .ok quotation) :
    asset.SameNames (keyOf quotation) := by
  unfold Custom.quotation at hquotation
  cases hfeed : Custom.feedFor? (feeds settings web now) asset with
  | none => rw [hfeed] at hquotation; cases hquotation
  | some feed =>
      simp only [hfeed] at hquotation
      have hsupports : feed.supports asset = true := by simpa using List.find?_some hfeed
      rcases mem_feeds.mp (List.mem_of_find?_eq_some hfeed) with rfl | ⟨rate, hrate, rfl⟩
      · obtain ⟨hblockchain, hsymbol⟩ := Custom.names_of_indexFeed hquotation
        rw [keyOf_eq hblockchain (by simp [Custom.indexBlockchain]) hsymbol]
        exact Asset.isNamed_iff.mp hsupports
      · obtain ⟨hblockchain, hsymbol⟩ := Custom.names_of_crossRate hquotation
        have hsome : rate.blockchain ≠ "" := by simp [blockchain_of_mem_crossRates hrate]
        rw [keyOf_eq hblockchain hsome hsymbol]
        exact Asset.isNamed_iff.mp hsupports

/-- All spellings of an asset have one custom quotation. -/
theorem result_quotation_congr {first second : Asset} (hnames : first.SameNames second)
    {quotation : Quotation}
    (hfirst : (Custom.quotation (feeds settings web now) first).result = .ok quotation) :
    (Custom.quotation (feeds settings web now) second).result = .ok quotation := by
  unfold Custom.quotation at hfirst ⊢
  rw [← feedFor?_congr hnames]
  cases hfeed : Custom.feedFor? (feeds settings web now) first with
  | none =>
      rw [hfeed] at hfirst
      cases hfirst
  | some feed =>
      simp only [hfeed] at hfirst ⊢
      -- no feed looks at the asset that it is asked for
      rcases mem_feeds.mp (List.mem_of_find?_eq_some hfeed) with rfl | ⟨rate, -, rfl⟩
      · exact hfirst
      · exact hfirst

/-! ## Single assets -/

/-- What an asset is quoted at when it comes alone, by its owner. -/
inductive Quoted (settings : Settings) (upstream : Route → Except Fault Reply) (now : Int)
    (asset : Asset) (quotation : Quotation) : Prop
  | custom (howned : customOwned settings asset = true)
      (hquotation : (Custom.quotation (feeds settings (webOf upstream) now) asset).result =
        .ok quotation)
  | fiat (key : String) (hkey : settings.forexKey = some key)
      (howned : fiatOwned settings asset = true)
      (hquotation : Fiat.quoteIn? now (fiatTable settings key upstream) asset = some quotation)
  | market (key : String) (hkey : settings.marketKey = some key)
      (howned : marketOwned settings asset = true)
      (hquotation : Market.quoteIn? (marketTable settings key upstream now) asset =
        some quotation)

variable {asset : Asset} {quotation : Quotation}

theorem not_customOwned_of_fiatOwned (howned : fiatOwned settings asset = true) :
    customOwned settings asset = false := by
  simp only [fiatOwned, Bool.and_eq_true, Bool.not_eq_true'] at howned
  exact howned.1.2

theorem not_customOwned_of_marketOwned (howned : marketOwned settings asset = true) :
    customOwned settings asset = false := by
  simp only [marketOwned, Bool.and_eq_true, Bool.not_eq_true'] at howned
  exact howned.1.1.2

theorem isSome_sourceCurrency?_of_fiatOwned (howned : fiatOwned settings asset = true) :
    (Fiat.sourceCurrency? asset).isSome = true := by
  simp only [fiatOwned, Bool.and_eq_true] at howned
  exact howned.2

theorem keyOf_fiat {table : List (Spelling × Fiat.Row)}
    (hquotation : Fiat.quoteIn? now table asset = some quotation) :
    keyOf quotation = ⟨"FIAT", asset.symbol⟩ := by
  obtain ⟨hblockchain, hsymbol⟩ := Fiat.names_of_quoteIn? hquotation
  exact keyOf_eq hblockchain (by simp) hsymbol

theorem keyOf_market {table : List (Spelling × Market.Row)}
    (hquotation : Market.quoteIn? table asset = some quotation) :
    keyOf quotation = asset ∧ asset.blockchain ≠ "FIAT" := by
  obtain ⟨hblockchain, hsymbol⟩ := Market.names_of_quoteIn? hquotation
  obtain ⟨id, hid, -⟩ := Option.bind_eq_some_iff.mp hquotation
  obtain ⟨hfiat, hempty⟩ := Market.blockchain_of_id? hid
  exact ⟨keyOf_eq hblockchain hempty hsymbol, hfiat⟩

/-- The key of a quotation is a spelling of its asset. -/
theorem Quoted.sameNames (hquoted : Quoted settings upstream now asset quotation) :
    asset.SameNames (keyOf quotation) := by
  cases hquoted with
  | custom howned hquotation => exact sameNames_of_custom hquotation
  | fiat key hkey howned hquotation =>
      rw [keyOf_fiat hquotation]
      have hupper : Text.upper "FIAT" = "FIAT" := rfl
      have hblockchain := Fiat.upper_blockchain (isSome_sourceCurrency?_of_fiatOwned howned)
      exact ⟨hblockchain.trans hupper.symm, rfl⟩
  | market key hkey howned hquotation =>
      rw [(keyOf_market hquotation).1]
      exact ⟨rfl, rfl⟩

/-- Quotations with one key are the same. -/
theorem eq_of_keyOf_eq {first second : Asset} {left right : Quotation}
    (hleft : Quoted settings upstream now first left)
    (hright : Quoted settings upstream now second right) (hkey : keyOf left = keyOf right) :
    left = right := by
  have howner : customOwned settings first = customOwned settings second := by
    rw [customOwned_congr hleft.sameNames, customOwned_congr hright.sameNames, hkey]
  have hnames : first.SameNames second := by
    have hfirst := hleft.sameNames
    rw [hkey] at hfirst
    exact ⟨hfirst.1.trans hright.sameNames.1.symm, hfirst.2.trans hright.sameNames.2.symm⟩
  -- two sources never publish under one key: the owners of its spellings differ, or the blockchain
  cases hleft with
  | custom hfirst hleft =>
      cases hright with
      | custom hsecond hright =>
          exact Except.ok.inj ((result_quotation_congr hnames hleft).symm.trans hright)
      | fiat _ _ hsecond _ =>
          simp [hfirst, not_customOwned_of_fiatOwned hsecond] at howner
      | market _ _ hsecond _ =>
          simp [hfirst, not_customOwned_of_marketOwned hsecond] at howner
  | fiat firstKey hfirstKey hfirst hleft =>
      cases hright with
      | custom hsecond _ =>
          simp [hsecond, not_customOwned_of_fiatOwned hfirst] at howner
      | fiat secondKey hsecondKey hsecond hright =>
          cases hfirstKey.symm.trans hsecondKey
          have hsymbol : first.symbol = second.symbol := by
            rw [keyOf_fiat hleft, keyOf_fiat hright] at hkey
            exact (Asset.mk.inj hkey).2
          have hcurrency := Fiat.sourceCurrency?_congr hsymbol
            (isSome_sourceCurrency?_of_fiatOwned hfirst)
            (isSome_sourceCurrency?_of_fiatOwned hsecond)
          rw [Fiat.quoteIn?_congr hcurrency hsymbol] at hleft
          exact Option.some.inj (hleft.symm.trans hright)
      | market _ _ _ hright =>
          rw [keyOf_fiat hleft, (keyOf_market hright).1] at hkey
          exact absurd (congrArg Asset.blockchain hkey).symm (keyOf_market hright).2
  | market firstKey hfirstKey hfirst hleft =>
      cases hright with
      | custom hsecond _ =>
          simp [hsecond, not_customOwned_of_marketOwned hfirst] at howner
      | fiat _ _ _ hright =>
          rw [(keyOf_market hleft).1, keyOf_fiat hright] at hkey
          exact absurd (congrArg Asset.blockchain hkey) (keyOf_market hleft).2
      | market secondKey hsecondKey _ hright =>
          cases hfirstKey.symm.trans hsecondKey
          rw [(keyOf_market hleft).1, (keyOf_market hright).1] at hkey
          rw [hkey] at hleft
          exact Option.some.inj (hleft.symm.trans hright)

end Pipeline

end PriceBoard
