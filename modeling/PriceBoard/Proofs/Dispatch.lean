import PriceBoard.Dispatch
import PriceBoard.Proofs.Distinct

/-!
# A batch, asset by asset

Dispatch serves assets in shares.  If every source serves its share as it would serve the assets of
it one by one, then the batch is what the assets alone would have got: `mem_quotations_batch_iff`.

Nothing here speaks of the console.  What comes of a share, `served`, does not depend on what is
printed about it, and `batch` is what comes of all shares.

The statement allows for assets that get less in company than alone.  `granted` tells those that do
not; a source that fails for its whole share, but not for every asset of it, grants nothing.

## Strategy

Both sides are recursions on the sources.  An asset in the share of a source is passed over by all
sources before it, whether it comes in company or alone (`quotations_alone`), and an asset in no
share gets nothing (`quotations_alone_of_unsupported`).
-/

namespace PriceBoard.Dispatch

variable {ε : Type}

/-! ## Shares -/

/-- What comes of the share of a source. -/
def served (source : Source ε) (share : List Asset) : Served :=
  if share.isEmpty then .nothing else .of (source.quotations share).result

/-- What comes of a batch. -/
def batch (sources : List (Source ε)) (assets : List Asset) : Batch :=
  let (shares, left) := partition sources assets
  .of shares left (shares.map fun entry => (entry.1.name, served entry.1 entry.2))

/-- The quotations for shares. -/
def quotationsOf (shares : List (Source ε × List Asset)) : List Quotation :=
  shares.flatMap fun entry => (served entry.1 entry.2).quotations

theorem quotations_batch (sources : List (Source ε)) (assets : List Asset) :
    (batch sources assets).quotations = quotationsOf (partition sources assets).1 := by
  simp [batch, Batch.of, quotationsOf, List.flatMap_map]

theorem mem_quotationsOf {shares : List (Source ε × List Asset)} {quotation : Quotation} :
    quotation ∈ quotationsOf shares ↔
      ∃ entry ∈ shares, quotation ∈ (served entry.1 entry.2).quotations := by
  simp [quotationsOf]

@[simp] theorem quotations_served_nil (source : Source ε) : (served source []).quotations = [] := rfl

@[simp] theorem failed_served_nil (source : Source ε) : (served source []).failed = false := rfl

/-- What a source quotes for its share, without the prices that are not above zero. -/
theorem perm_served {source : Source ε} {share : List Asset} {found : List Quotation}
    {quote? : Asset → Option Quotation} (hresult : (source.quotations share).result = .ok found)
    (hfound : found.Perm (share.filterMap quote?)) :
    (served source share).quotations.Perm (share.filterMap fun asset =>
      (quote? asset).filter fun quotation => quotation.price.isPositive) := by
  by_cases hshare : share = []
  · simp [hshare]
  · have hsome : share.isEmpty = false := by simpa using hshare
    have hkept : (served source share).quotations =
        found.filter fun quotation => quotation.price.isPositive := by
      simp [served, hsome, hresult, Served.of]
    rw [hkept, ← List.filter_filterMap]
    exact hfound.filter _

theorem quotations_served_of_error {source : Source ε} {share : List Asset} {fault : Fault}
    (hresult : (source.quotations share).result = .error fault) :
    (served source share).quotations = [] := by
  unfold served
  split
  · rfl
  · simp [hresult, Served.of]

/-- Only the result of a source for its share matters. -/
theorem served_congr {first second : Source ε} {share : List Asset}
    (hsame : (first.quotations share).result = (second.quotations share).result) :
    served first share = served second share := by
  simp only [served, hsame]

/-- A source fails just if it is called in vain. -/
theorem failed_served_iff {source : Source ε} {share : List Asset} :
    (served source share).failed = true ↔
      share ≠ [] ∧ ∃ fault, (source.quotations share).result = .error fault := by
  cases share with
  | nil => simp
  | cons asset others =>
      cases hresult : (source.quotations (asset :: others)).result with
      | error fault => simp [served, hresult, Served.of]
      | ok quotations => simp [served, hresult, Served.of]

/-- The shares are in the order of the sources, one each. -/
theorem map_fst_divide (sources : List (Source ε)) (remaining : List Asset) :
    (divide sources remaining).1.map Prod.fst = sources := by
  induction sources generalizing remaining with
  | nil => rfl
  | cons source others ih => simp [divide, ih]

/-- What is in a share is supported by the source and was there to be divided. -/
theorem mem_of_mem_share {sources : List (Source ε)} {remaining : List Asset}
    {entry : Source ε × List Asset} (hentry : entry ∈ (divide sources remaining).1)
    {asset : Asset} (hasset : asset ∈ entry.2) :
    asset ∈ remaining ∧ entry.1.supports asset = true := by
  induction sources generalizing remaining with
  | nil => cases hentry
  | cons source others ih =>
      rcases List.mem_cons.mp hentry with rfl | hentry
      · simpa using hasset
      · have hothers := ih hentry
        exact ⟨(List.mem_filter.mp hothers.1).1, hothers.2⟩

/-- Every asset is in a share or left over. -/
theorem mem_share_or_left {sources : List (Source ε)} {remaining : List Asset} {asset : Asset}
    (hasset : asset ∈ remaining) :
    (∃ entry ∈ (divide sources remaining).1, asset ∈ entry.2) ∨
      asset ∈ (divide sources remaining).2 := by
  induction sources generalizing remaining with
  | nil => exact .inr hasset
  | cons source others ih =>
      -- either the first source takes the asset, or it is still there for the others
      cases hsupports : source.supports asset with
      | true =>
          refine .inl ⟨(source, remaining.filter source.supports), List.mem_cons_self, ?_⟩
          exact List.mem_filter.mpr ⟨hasset, hsupports⟩
      | false =>
          have hrest : asset ∈ remaining.filter fun asset => !source.supports asset :=
            List.mem_filter.mpr ⟨hasset, by simp [hsupports]⟩
          rcases ih hrest with ⟨entry, hentry, hshare⟩ | hleft
          · exact .inl ⟨entry, List.mem_cons_of_mem _ hentry, hshare⟩
          · exact .inr hleft

theorem mem_of_mem_left {sources : List (Source ε)} {remaining : List Asset} {asset : Asset}
    (hasset : asset ∈ (divide sources remaining).2) : asset ∈ remaining := by
  induction sources generalizing remaining with
  | nil => exact hasset
  | cons source others ih => exact (List.mem_filter.mp (ih hasset)).1

/-- What is left over is supported by no source. -/
theorem supports_of_mem_left {sources : List (Source ε)} {remaining : List Asset} {asset : Asset}
    (hasset : asset ∈ (divide sources remaining).2) {source : Source ε}
    (hsource : source ∈ sources) : source.supports asset = false := by
  induction sources generalizing remaining with
  | nil => cases hsource
  | cons first others ih =>
      rcases List.mem_cons.mp hsource with rfl | hothers
      · simpa using (List.mem_filter.mp (mem_of_mem_left hasset)).2
      · exact ih hasset hothers

/-! ## Assets alone -/

/-- Without assets nothing is quoted. -/
theorem quotationsOf_divide_nil (sources : List (Source ε)) :
    quotationsOf (divide sources []).1 = [] := by
  induction sources with
  | nil => rfl
  | cons source others ih => simpa [divide, quotationsOf] using ih

/-- An asset in the share of a source is served by that source when it comes alone. -/
theorem quotations_alone {sources : List (Source ε)} {remaining : List Asset}
    {entry : Source ε × List Asset} (hentry : entry ∈ (divide sources remaining).1)
    {asset : Asset} (hasset : asset ∈ entry.2) :
    quotationsOf (divide sources [asset]).1 = (served entry.1 [asset]).quotations := by
  -- a source before the one that serves the asset passes it over, in company and alone
  induction sources generalizing remaining with
  | nil => cases hentry
  | cons source others ih =>
      rcases List.mem_cons.mp hentry with rfl | hentry
      · have hsupports : source.supports asset = true := (List.mem_filter.mp hasset).2
        have hothers := quotationsOf_divide_nil others
        simpa [divide, quotationsOf, hsupports] using hothers
      · have hsupports : source.supports asset = false := by
          simpa using (List.mem_filter.mp (mem_of_mem_share hentry hasset).1).2
        have hothers := ih hentry
        simpa [divide, quotationsOf, hsupports] using hothers

/-- An asset that no source supports gets nothing. -/
theorem quotations_alone_of_unsupported {sources : List (Source ε)} {asset : Asset}
    (hunsupported : ∀ source ∈ sources, source.supports asset = false) :
    quotationsOf (divide sources [asset]).1 = [] := by
  induction sources with
  | nil => rfl
  | cons source others ih =>
      have hsupports := hunsupported source List.mem_cons_self
      have hothers := ih fun other hother => hunsupported other (List.mem_cons_of_mem _ hother)
      simpa [divide, quotationsOf, hsupports] using hothers

/-! ## Batches -/

/-- A batch is what its assets get alone, apart from those that are not granted it. -/
theorem mem_quotations_batch_iff {sources : List (Source ε)} {assets : List Asset}
    {granted : Asset → Prop}
    (hshares : ∀ entry ∈ (partition sources assets).1, ∀ quotation,
      quotation ∈ (served entry.1 entry.2).quotations ↔
        ∃ asset ∈ entry.2, granted asset ∧ quotation ∈ (served entry.1 [asset]).quotations)
    (quotation : Quotation) :
    quotation ∈ (batch sources assets).quotations ↔
      ∃ asset ∈ assets, granted asset ∧ quotation ∈ (batch sources [asset]).quotations := by
  simp only [quotations_batch, partition, distinct_singleton]
  rw [mem_quotationsOf]
  constructor
  · rintro ⟨entry, hentry, hquotation⟩
    obtain ⟨asset, hasset, hgranted, halone⟩ := (hshares entry hentry quotation).mp hquotation
    have hmem := (mem_of_mem_share hentry hasset).1
    exact ⟨asset, mem_distinct.mp hmem, hgranted, by rwa [quotations_alone hentry hasset]⟩
  · rintro ⟨asset, hasset, hgranted, halone⟩
    have hplace : (∃ entry ∈ (divide sources (distinct assets)).1, asset ∈ entry.2) ∨
        asset ∈ (divide sources (distinct assets)).2 :=
      mem_share_or_left (mem_distinct.mpr hasset)
    rcases hplace with ⟨entry, hentry, hshare⟩ | hleft
    · rw [quotations_alone hentry hshare] at halone
      exact ⟨entry, hentry, (hshares entry hentry quotation).mpr ⟨asset, hshare, hgranted, halone⟩⟩
    · -- nobody serves the asset, so there was nothing to be granted
      rw [quotations_alone_of_unsupported fun _ => supports_of_mem_left hleft] at halone
      cases halone

/-- If what the sources quote for their shares is what the assets in them get, then a batch is what
its assets get, each once. -/
theorem perm_quotations_batch {sources : List (Source ε)} {assets : List Asset}
    {quote? : Asset → Option Quotation}
    (hshares : ∀ entry ∈ (partition sources assets).1,
      (served entry.1 entry.2).quotations.Perm (entry.2.filterMap quote?))
    (hleft : ∀ asset ∈ (partition sources assets).2, quote? asset = none) :
    (batch sources assets).quotations.Perm ((distinct assets).filterMap quote?) := by
  rw [quotations_batch]
  unfold partition at hshares hleft ⊢
  generalize distinct assets = remaining at hshares hleft ⊢
  induction sources generalizing remaining with
  | nil =>
      have hnone : remaining.filterMap quote? = [] := List.filterMap_eq_nil_iff.mpr hleft
      rw [hnone]
      rfl
  | cons source others ih =>
      -- the share of the first source, and then what it leaves for the others
      have hothers := ih (remaining.filter fun asset => !source.supports asset)
        (fun entry hentry => hshares entry (List.mem_cons_of_mem _ hentry)) hleft
      have hfirst := hshares (source, remaining.filter source.supports) List.mem_cons_self
      have hsplit := (List.filter_append_perm source.supports remaining).filterMap quote?
      rw [List.filterMap_append] at hsplit
      exact (hfirst.append hothers).trans hsplit

/-! ## Requests -/

/-- The requests for the share of a source. -/
def requestsFor (source : Source ε) (share : List Asset) : List ε :=
  if share = [] then [] else (source.quotations share).requests

/-- The requests for shares. -/
def requestsOf (shares : List (Source ε × List Asset)) : List ε :=
  shares.flatMap fun entry => requestsFor entry.1 entry.2

/-- The requests for shares are those for the shares that are not empty. -/
theorem mem_requestsOf {shares : List (Source ε × List Asset)} {request : ε} :
    request ∈ requestsOf shares ↔
      ∃ entry ∈ shares, entry.2 ≠ [] ∧ request ∈ (entry.1.quotations entry.2).requests := by
  simp only [requestsOf, List.mem_flatMap, requestsFor]
  refine exists_congr fun entry => and_congr_right fun _ => ?_
  split <;> simp [*]

/-! ## Failures -/

/-- The sources that failed are those that were called in vain. -/
theorem mem_failed_batch {sources : List (Source ε)} {assets : List Asset} {name : String} :
    name ∈ (batch sources assets).metrics.failed ↔
      ∃ entry ∈ (partition sources assets).1, entry.1.name = name ∧ entry.2 ≠ [] ∧
        ∃ fault, (entry.1.quotations entry.2).result = .error fault := by
  simp only [batch, Batch.of, List.mem_map, List.mem_filter]
  constructor
  · rintro ⟨_, ⟨⟨entry, hentry, rfl⟩, hfailed⟩, hname⟩
    exact ⟨entry, hentry, hname, failed_served_iff.mp hfailed⟩
  · rintro ⟨entry, hentry, hname, hfailed⟩
    exact ⟨_, ⟨⟨entry, hentry, rfl⟩, failed_served_iff.mpr hfailed⟩, hname⟩

end PriceBoard.Dispatch
