import PriceBoard.Pipeline
import PriceBoard.Proofs.Dispatch
import PriceBoard.Proofs.Source.Custom

/-!
# Who owns an asset

In the pipeline every asset belongs to the custom source, to the fiat source, to the market source
or to nobody.  Which of these it is depends on the settings and on the names of the asset only, not
on the web or the time, and `partition_sources` says that the shares of a batch are just the assets
that the sources own.
-/

namespace PriceBoard

open Provider (Web Request)

/-! ## Names -/

/-- Whether two assets are the same regardless of case. -/
def Asset.SameNames (first second : Asset) : Prop :=
  Text.upper first.blockchain = Text.upper second.blockchain ∧
    Text.upper first.symbol = Text.upper second.symbol

theorem Asset.isNamed_iff {asset : Asset} {blockchain symbol : String} :
    asset.isNamed blockchain symbol = true ↔ asset.SameNames ⟨blockchain, symbol⟩ := by
  simp [isNamed, SameNames]

theorem Asset.isNamed_congr {first second : Asset} (hnames : first.SameNames second)
    (blockchain symbol : String) :
    first.isNamed blockchain symbol = second.isNamed blockchain symbol := by
  simp only [isNamed, hnames.1, hnames.2]

namespace Pipeline

variable {settings : Settings} {web : Web} {now : Int}

/-! ## Feeds -/

/-- Whether a custom feed is in charge of the asset. -/
def customOwned (settings : Settings) (asset : Asset) : Bool :=
  Custom.isIndexToken asset || (crossRates settings).any fun rate => rate.supports asset

theorem mem_feeds {feed : Custom.Feed Request} :
    feed ∈ feeds settings web now ↔
      feed = Custom.indexFeed (indexPrice settings web) now ∨
        ∃ rate ∈ crossRates settings, feed = rate.feed (tickerPrice settings web) now := by
  simp only [feeds, List.mem_cons, List.mem_map]
  simp only [eq_comm]

theorem supports_custom (asset : Asset) :
    (Custom.source (feeds settings web now)).supports asset = customOwned settings asset := by
  simp only [Custom.source, Custom.feedFor?, customOwned, List.isSome_find?, feeds,
    List.any_cons, List.any_map]
  rfl

/-- The first feed that supports the asset is that of the index, or of a cross rate. -/
theorem feedFor?_feeds (asset : Asset) :
    Custom.feedFor? (feeds settings web now) asset =
      if Custom.isIndexToken asset then some (Custom.indexFeed (indexPrice settings web) now)
      else
        ((crossRates settings).find? fun rate => rate.supports asset).map fun rate =>
          rate.feed (tickerPrice settings web) now := by
  unfold Custom.feedFor? feeds
  rw [List.find?_cons]
  cases hindex : Custom.isIndexToken asset with
  | true => simp [Custom.indexFeed, hindex]
  | false =>
    simp only [Custom.indexFeed, hindex, List.find?_map, Bool.false_eq_true, if_false]
    rfl

/-! ## Owners -/

/-- Whether the fiat source is in charge of the asset. -/
def fiatOwned (settings : Settings) (asset : Asset) : Bool :=
  settings.forexKey.isSome && !customOwned settings asset && (Fiat.sourceCurrency? asset).isSome

/-- Whether the market source is in charge of the asset. -/
def marketOwned (settings : Settings) (asset : Asset) : Bool :=
  settings.marketKey.isSome && !customOwned settings asset && !fiatOwned settings asset &&
    (Market.id? asset).isSome

theorem fiatOwned_of_key {key : String} (hkey : settings.forexKey = some key) :
    fiatOwned settings = fun asset =>
      (Fiat.sourceCurrency? asset).isSome && !customOwned settings asset := by
  funext asset
  simp [fiatOwned, hkey, Bool.and_comm]

theorem marketOwned_of_key {key : String} (hkey : settings.marketKey = some key) :
    marketOwned settings = fun asset =>
      (Market.id? asset).isSome &&
        ((settings.forexKey.isNone || (Fiat.sourceCurrency? asset).isNone) &&
          !customOwned settings asset) := by
  funext asset
  cases hforex : settings.forexKey <;> cases hcustom : customOwned settings asset <;>
    cases hcurrency : Fiat.sourceCurrency? asset <;>
    simp [marketOwned, fiatOwned, hkey, hforex, hcustom, hcurrency]

/-- The shares of a batch are what the sources own. -/
theorem partition_sources (assets : List Asset) :
    (Dispatch.partition (sources settings web now) assets).1 =
      (Custom.source (feeds settings web now), (distinct assets).filter (customOwned settings)) ::
        (settings.forexKey.toList.map fun key =>
          (Fiat.source (fiatRows settings key web) now,
            (distinct assets).filter (fiatOwned settings))) ++
        (settings.marketKey.toList.map fun key =>
          (Market.source (marketRows settings key web now),
            (distinct assets).filter (marketOwned settings))) := by
  have hcustom : (Custom.source (feeds settings web now)).supports = customOwned settings :=
    funext supports_custom
  -- which sources there are is decided by the keys
  cases hforex : settings.forexKey with
  | none =>
      cases hmarket : settings.marketKey with
      | none =>
          simp [Dispatch.partition, Dispatch.divide, sources, fiatSource?, marketSource?, hforex,
            hmarket, hcustom]
      | some marketKey =>
          simp [Dispatch.partition, Dispatch.divide, sources, fiatSource?, marketSource?, hforex,
            hmarket, hcustom, marketOwned_of_key hmarket, Market.source]
  | some forexKey =>
      cases hmarket : settings.marketKey with
      | none =>
          simp [Dispatch.partition, Dispatch.divide, sources, fiatSource?, marketSource?, hforex,
            hmarket, hcustom, fiatOwned_of_key hforex, Fiat.source]
      | some marketKey =>
          simp [Dispatch.partition, Dispatch.divide, sources, fiatSource?, marketSource?, hforex,
            hmarket, hcustom, fiatOwned_of_key hforex, marketOwned_of_key hmarket, Fiat.source,
            Market.source]

/-- The shares of a batch, one by one. -/
theorem mem_partition_sources {assets : List Asset} {entry : Source Request × List Asset} :
    entry ∈ (Dispatch.partition (sources settings web now) assets).1 ↔
      entry = (Custom.source (feeds settings web now),
          (distinct assets).filter (customOwned settings)) ∨
        (∃ key, settings.forexKey = some key ∧
          entry = (Fiat.source (fiatRows settings key web) now,
            (distinct assets).filter (fiatOwned settings))) ∨
        ∃ key, settings.marketKey = some key ∧
          entry = (Market.source (marketRows settings key web now),
            (distinct assets).filter (marketOwned settings)) := by
  rw [partition_sources]
  simp only [List.cons_append, List.mem_cons, List.mem_append, List.mem_map, Option.mem_toList,
    eq_comm (b := entry)]

/-- Whatever fails in a batch, it is not the custom source. -/
theorem custom_notMem_failed (settings : Settings) (web : Web) (now : Int) (assets : List Asset) :
    "custom" ∉ (Dispatch.batch (sources settings web now) assets).metrics.failed := by
  rw [Dispatch.mem_failed_batch]
  rintro ⟨entry, hentry, hname, -, fault, hfault⟩
  rcases mem_partition_sources.mp hentry with rfl | ⟨_, _, rfl⟩ | ⟨_, _, rfl⟩
  · have hfound := Custom.result_quotations (feeds settings web now)
      ((distinct assets).filter (customOwned settings))
    exact absurd (hfound.symm.trans hfault) (by simp)
  · simp [Fiat.source] at hname
  · simp [Market.source] at hname

/-! ## Plain settings -/

/-- Settings with one asset, which has a cross rate, and without keys. -/
def plainSettings : Settings where
  interval := 10
  currencies := [⟨"FIAT", "ARS-USD"⟩]
  marketKey := none
  marketUrl := Settings.defaultMarketUrl
  forexKey := none
  forexUrl := Settings.defaultForexUrl
  tickerUrl := Settings.defaultTickerUrl
  indexUrl := Settings.defaultIndexUrl
  brlCrossRate := false
  timeout := Settings.defaultTimeout

end Pipeline

end PriceBoard
