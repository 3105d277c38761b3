import PriceBoard.Proofs.Pipeline.Additivity
import PriceBoard.Proofs.Pipeline.Answers

/-!
# What an asset obtains

In a cycle every asset is quoted by its owner, once, or it is not.  `obtained?` says at what, and
`perm_batch` that a batch holds just this: of every distinct asset one quotation, or none if the
owner has none for it or the price is not above zero.
-/

namespace PriceBoard.Pipeline

open Provider

variable {settings : Settings} {upstream : Route → Except Fault Reply} {now : Int}
  {assets : List Asset} {asset : Asset} {quotation : Quotation}

/-! ## By owner -/

/-- What the fiat source has for the asset; nothing for any asset if its call was made in vain. -/
def fiatQuote? (settings : Settings) (upstream : Route → Except Fault Reply) (now : Int)
    (assets : List Asset) (asset : Asset) : Option Quotation :=
  match settings.forexKey, (forexCall settings (webOf upstream) assets).result with
  | some key, .ok _ => Fiat.quoteIn? now (fiatTable settings key upstream) asset
  | _, _ => none

/-- What the market source has for the asset. -/
def marketQuote? (settings : Settings) (upstream : Route → Except Fault Reply) (now : Int)
    (asset : Asset) : Option Quotation :=
  settings.marketKey.bind fun key => Market.quoteIn? (marketTable settings key upstream now) asset

/-- What the owner of the asset has for it, in a cycle over the assets. -/
def obtained? (settings : Settings) (upstream : Route → Except Fault Reply) (now : Int)
    (assets : List Asset) (asset : Asset) : Option Quotation :=
  if customOwned settings asset then
    (Custom.quotation (feeds settings (webOf upstream) now) asset).result.toOption
  else if fiatOwned settings asset then fiatQuote? settings upstream now assets asset
  else if marketOwned settings asset then marketQuote? settings upstream now asset
  else none

theorem obtained?_of_customOwned (howned : customOwned settings asset = true) :
    obtained? settings upstream now assets asset =
      (Custom.quotation (feeds settings (webOf upstream) now) asset).result.toOption := by
  rw [obtained?, if_pos howned]

theorem obtained?_of_fiatOwned (howned : fiatOwned settings asset = true) :
    obtained? settings upstream now assets asset =
      fiatQuote? settings upstream now assets asset := by
  have hcustom : ¬ customOwned settings asset = true := by
    rw [not_customOwned_of_fiatOwned howned]
    exact Bool.false_ne_true
  rw [obtained?, if_neg hcustom, if_pos howned]

theorem not_fiatOwned_of_marketOwned (howned : marketOwned settings asset = true) :
    fiatOwned settings asset = false := by
  simp only [marketOwned, Bool.and_eq_true, Bool.not_eq_true'] at howned
  exact howned.1.2

theorem obtained?_of_marketOwned (howned : marketOwned settings asset = true) :
    obtained? settings upstream now assets asset = marketQuote? settings upstream now asset := by
  simp [obtained?, not_customOwned_of_marketOwned howned, not_fiatOwned_of_marketOwned howned,
    howned]

/-- What an asset obtains in company it would be quoted at alone. -/
theorem quoted_of_obtained?
    (hquotation : obtained? settings upstream now assets asset = some quotation) :
    Quoted settings upstream now asset quotation := by
  unfold obtained? at hquotation
  split_ifs at hquotation with hcustom hfiat hmarket
  · exact .custom hcustom (toOption_eq_some_iff.mp hquotation)
  · unfold fiatQuote? at hquotation
    split at hquotation
    · exact .fiat _ ‹_› hfiat hquotation
    · cases hquotation
  · obtain ⟨key, hkey, hquotation⟩ := Option.bind_eq_some_iff.mp hquotation
    exact .market key hkey hmarket hquotation

/-! ## Batches -/

/-- A share of the assets that a source owns. -/
private theorem perm_share {remaining : List Asset} {owned : Asset → Bool}
    {served : List Quotation} {quote? : Asset → Option Quotation}
    (hquote : ∀ asset, owned asset = true →
      obtained? settings upstream now assets asset = quote? asset)
    (hserved : served.Perm ((remaining.filter owned).filterMap fun asset =>
      (quote? asset).filter fun quotation => quotation.price.isPositive)) :
    served.Perm ((remaining.filter owned).filterMap fun asset =>
      (obtained? settings upstream now assets asset).filter
        fun quotation => quotation.price.isPositive) := by
  refine hserved.trans (List.Perm.of_eq (List.filterMap_congr fun asset hasset => ?_))
  rw [hquote asset (List.mem_filter.mp hasset).2]

private theorem perm_fiat_share {key : String} (hkey : settings.forexKey = some key) :
    let share := (distinct assets).filter (fiatOwned settings)
    (Dispatch.served
      (Fiat.source (fiatRows settings key (webOf upstream)) now) share).quotations.Perm
        (share.filterMap fun asset => (fiatQuote? settings upstream now assets asset).filter
          fun quotation => quotation.price.isPositive) := by
  intro share
  by_cases hanswered : ForexAnswered settings upstream assets
  · have hrows : Fiat.tickersOf share ≠ [] →
        ∃ rows, forexAnswer settings key upstream = .ok rows := by
      intro htickers
      obtain ⟨table, htable⟩ := hanswered
      simp only [forexCall, hkey] at htable
      exact ⟨table, (result_snapshot htickers).symm.trans htable⟩
    obtain ⟨table, htable⟩ := hanswered
    simp only [fiatQuote?, hkey, htable]
    exact perm_served_fiat hrows
  · obtain ⟨htickers, fault, hfault⟩ := not_forexAnswered hkey hanswered
    have hnone : ∀ asset, fiatQuote? settings upstream now assets asset = none := by
      intro asset
      unfold fiatQuote?
      split
      · exact absurd ⟨_, ‹_›⟩ hanswered
      · rfl
    rw [served_fiat_of_error htickers hfault]
    simp [hnone]

/-- A batch is what its assets obtain, each once, without the prices that are not above zero. -/
theorem perm_batch :
    (Dispatch.batch (sources settings (webOf upstream) now) assets).quotations.Perm
      ((distinct assets).filterMap fun asset =>
        (obtained? settings upstream now assets asset).filter
          fun quotation => quotation.price.isPositive) := by
  refine Dispatch.perm_quotations_batch ?_ ?_
  · intro entry hentry
    rcases mem_partition_sources.mp hentry with rfl | ⟨key, hkey, rfl⟩ | ⟨key, hkey, rfl⟩
    · exact perm_share (fun _ => obtained?_of_customOwned) perm_served_custom
    · exact perm_share (fun _ => obtained?_of_fiatOwned) (perm_fiat_share hkey)
    · refine perm_share (fun asset howned => ?_) perm_served_market
      rw [obtained?_of_marketOwned howned, marketQuote?, hkey, Option.bind_some]
  · intro asset hasset
    have hsupports : ∀ source ∈ sources settings (webOf upstream) now,
        source.supports asset = false := fun _ => Dispatch.supports_of_mem_left hasset
    have hcustom : customOwned settings asset = false := by
      have hnone := hsupports (Custom.source (feeds settings (webOf upstream) now))
        (by simp [sources])
      rwa [supports_custom] at hnone
    have hfiat : fiatOwned settings asset = false := by
      cases hkey : settings.forexKey with
      | none => simp [fiatOwned, hkey]
      | some key =>
          have hnone := hsupports (Fiat.source (fiatRows settings key (webOf upstream)) now)
            (by simp [sources, fiatSource?, hkey])
          simp only [Fiat.source] at hnone
          simp [fiatOwned, hnone]
    have hmarket : marketOwned settings asset = false := by
      cases hkey : settings.marketKey with
      | none => simp [marketOwned, hkey]
      | some key =>
          have hnone := hsupports
            (Market.source (marketRows settings key (webOf upstream) now))
            (by simp [sources, marketSource?, hkey])
          simp only [Market.source] at hnone
          simp [marketOwned, hnone]
    simp [obtained?, hcustom, hfiat, hmarket]

end PriceBoard.Pipeline
