import PriceBoard.Proofs.Dispatch.Figures
import PriceBoard.Proofs.Dispatch.Printing

/-!
# Every asset has one place

Dividing a batch puts every distinct asset of it into exactly one list: the share of the first
source that supports it, or the assets that are left over (`shares_exact`).  Each list keeps the
order of the batch.

Which lists the sources are called with is read off a batch whose sources are `recorded`: each of
them makes one request for every call, which tells the place of the source and the list.

## Strategy

`owner?` finds the first source that supports an asset.  The division, a recursion that hands what
one source leaves to the next, is the same as asking for the owner of every asset: the share at a
place has the assets owned there (`getElem?_shares`), and left over is what has no owner
(`left_eq`).  All else follows from the owner being a function of the asset.
-/

namespace PriceBoard.Dispatch

variable {ε δ : Type} {sources : List (Source ε)} {source : Source ε} {assets share : List Asset}
  {asset : Asset} {place : Nat}

/-! ## Owners -/

/-- The place of the first source that supports the asset. -/
def owner? (sources : List (Source ε)) (asset : Asset) : Option Nat :=
  sources.findIdx? fun source => source.supports asset

theorem owner?_cons (source : Source ε) (others : List (Source ε)) (asset : Asset) :
    owner? (source :: others) asset =
      if source.supports asset then some 0 else (owner? others asset).map (· + 1) :=
  List.findIdx?_cons

theorem owner?_eq_none_iff :
    owner? sources asset = none ↔ ∀ source ∈ sources, source.supports asset = false :=
  List.findIdx?_eq_none_iff

/-- An asset is owned at a place if the source there supports it and no source before it does. -/
theorem owner?_eq_some_iff (hsource : sources[place]? = some source) :
    owner? sources asset = some place ↔
      source.supports asset = true ∧
        ∀ earlier ∈ sources.take place, earlier.supports asset = false := by
  induction sources generalizing place with
  | nil => simp at hsource
  | cons first others ih =>
      rw [owner?_cons]
      cases place with
      | zero =>
          obtain rfl : first = source := by simpa using hsource
          cases first.supports asset <;> simp
      | succ place =>
          have hothers := @ih place (by simpa using hsource)
          cases hfirst : first.supports asset <;> simp [hfirst, hothers]

/-- Owners are found by support alone. -/
theorem owner?_mapIdx {change : Nat → Source ε → Source δ} (sources : List (Source ε))
    (hsame : ∀ place source, (change place source).supports = source.supports) (asset : Asset) :
    owner? (sources.mapIdx change) asset = owner? sources asset := by
  induction sources generalizing change with
  | nil => rfl
  | cons first others ih =>
      have hothers := @ih (fun place => change (place + 1)) fun place => hsame (place + 1)
      rw [List.mapIdx_cons, owner?_cons, owner?_cons, hsame, hothers]

/-! ## Shares -/

theorem getElem?_divide (sources : List (Source ε)) (remaining : List Asset) (place : Nat) :
    (divide sources remaining).1[place]? = sources[place]?.map fun source =>
      (source, remaining.filter fun asset => owner? sources asset = some place) := by
  -- an asset that the first source supports is owned there; any other is owned one place further
  induction sources generalizing remaining place with
  | nil => rfl
  | cons first others ih =>
      cases place with
      | zero =>
          simp only [divide, List.getElem?_cons_zero, Option.map_some]
          congr 2
          refine List.filter_congr fun asset _ => ?_
          rw [owner?_cons]
          cases first.supports asset <;> simp
      | succ place =>
          simp only [divide, List.getElem?_cons_succ, ih, List.filter_filter]
          congr 1
          funext source
          congr 1
          refine List.filter_congr fun asset _ => ?_
          rw [owner?_cons]
          cases first.supports asset <;> simp

theorem left_divide (sources : List (Source ε)) (remaining : List Asset) :
    (divide sources remaining).2 =
      remaining.filter fun asset => owner? sources asset = none := by
  induction sources generalizing remaining with
  | nil => simp [divide, owner?]
  | cons first others ih =>
      simp only [divide, ih, List.filter_filter]
      refine List.filter_congr fun asset _ => ?_
      rw [owner?_cons]
      cases first.supports asset <;> simp

/-- The share at a place has the assets that are owned there. -/
theorem getElem?_shares (sources : List (Source ε)) (assets : List Asset) (place : Nat) :
    (partition sources assets).1[place]? = sources[place]?.map fun source =>
      (source, (distinct assets).filter fun asset => owner? sources asset = some place) :=
  getElem?_divide sources (distinct assets) place

/-- Left over are the assets without an owner. -/
theorem left_eq (sources : List (Source ε)) (assets : List Asset) :
    (partition sources assets).2 =
      (distinct assets).filter fun asset => owner? sources asset = none :=
  left_divide sources (distinct assets)

/-- Dividing moves assets about, and neither adds nor loses any. -/
theorem perm_divide (sources : List (Source ε)) (remaining : List Asset) :
    ((divide sources remaining).1.flatMap Prod.snd ++ (divide sources remaining).2).Perm
      remaining := by
  induction sources generalizing remaining with
  | nil => exact List.Perm.refl _
  | cons first others ih =>
      have hothers := ih (remaining.filter fun asset => !first.supports asset)
      have hsplit := List.filter_append_perm first.supports remaining
      simp only [divide, List.flatMap_cons, List.append_assoc]
      exact (hothers.append_left _).trans hsplit

/-! ## Calls -/

/-- The source with one request for every call: its place, and the list that it is called with. -/
def recorded (place : Nat) (source : Source ε) : Source (Nat × List Asset) where
  name := source.name
  supports := source.supports
  quotations := fun share =>
    ⟨(source.quotations share).result, [(place, share)], (source.quotations share).log⟩

/-- The calls of a batch, as the places of the sources and the lists that they are called with. -/
def calls (console : Console) (sources : List (Source ε)) (assets : List Asset) :
    List (Nat × List Asset) :=
  (run console (sources.mapIdx recorded) assets).requests

theorem owner?_recorded (sources : List (Source ε)) :
    owner? (sources.mapIdx recorded) = owner? sources :=
  funext (owner?_mapIdx sources fun _ _ => rfl)

theorem shares_recorded (sources : List (Source ε)) (assets : List Asset) :
    (partition (sources.mapIdx recorded) assets).1 =
      (partition sources assets).1.mapIdx fun place entry => (recorded place entry.1, entry.2) := by
  refine List.ext_getElem? fun place => ?_
  rw [getElem?_shares, List.getElem?_mapIdx, List.getElem?_mapIdx, getElem?_shares]
  simp only [Option.map_map, Function.comp_def, owner?_recorded]

/-- What does not tell a source from the recorded one is the same for all shares. -/
theorem map_shares_recorded {β : Type} (sources : List (Source ε)) (assets : List Asset)
    (recording : Source (Nat × List Asset) × List Asset → β) (seen : Source ε × List Asset → β)
    (hsame : ∀ place entry, recording (recorded place entry.1, entry.2) = seen entry) :
    (partition (sources.mapIdx recorded) assets).1.map recording =
      (partition sources assets).1.map seen := by
  refine List.ext_getElem? fun place => ?_
  rw [shares_recorded, List.getElem?_map, List.getElem?_mapIdx, List.getElem?_map, Option.map_map]
  exact congrArg (Option.map · _) (funext (hsame place))

theorem claimedCounts_eq (shares : List (Source ε × List Asset)) :
    claimedCounts shares = (shares.map fun entry => (entry.1.name, entry.2.length)).foldl
      (fun counts entry => setEntry entry.1 entry.2 counts) [] := by
  rw [List.foldl_map]
  rfl

/-- Recording changes nothing about what comes of a batch. -/
theorem batch_recorded (sources : List (Source ε)) (assets : List Asset) :
    batch (sources.mapIdx recorded) assets = batch sources assets := by
  have hserved := map_shares_recorded sources assets
    (fun entry => (entry.1.name, served entry.1 entry.2))
    (fun entry => (entry.1.name, served entry.1 entry.2)) fun _ _ => rfl
  have hnames := map_shares_recorded sources assets (fun entry => (entry.1.name, entry.2.length))
    (fun entry => (entry.1.name, entry.2.length)) fun _ _ => rfl
  have hlengths := map_shares_recorded sources assets (fun entry => entry.2.length)
    (fun entry => entry.2.length) fun _ _ => rfl
  have hleft : (partition (sources.mapIdx recorded) assets).2 = (partition sources assets).2 := by
    rw [left_eq, left_eq, owner?_recorded]
  simp only [batch, Batch.of, claimedCounts_eq, hserved, hnames, hlengths, hleft]

/-- Recording changes nothing about whether a batch comes to its end. -/
theorem result_run_recorded (console : Console) (sources : List (Source ε)) (assets : List Asset)
    (found : Batch) :
    (run console (sources.mapIdx recorded) assets).result = .ok found ↔
      (run console sources assets).result = .ok found := by
  have hreported : (∀ entry ∈ (partition (sources.mapIdx recorded) assets).1,
      Reported console entry) ↔ ∀ entry ∈ (partition sources assets).1, Reported console entry := by
    have hsame := map_shares_recorded sources assets (Reported console) (Reported console)
      fun _ _ => rfl
    have hall : (∀ taken ∈ (partition (sources.mapIdx recorded) assets).1.map (Reported console),
        taken) ↔ ∀ taken ∈ (partition sources assets).1.map (Reported console), taken := by
      rw [hsame]
    simpa only [List.forall_mem_map] using hall
  rw [result_run_eq_ok_iff, result_run_eq_ok_iff, hreported, batch_recorded]

/-- The sources are called with their shares, and never with an empty one. -/
theorem share_of_mem_calls {console : Console} {call : Nat × List Asset}
    (hcall : call ∈ calls console sources assets) :
    call.2 ≠ [] ∧ ∃ source, (partition sources assets).1[call.1]? = some (source, call.2) := by
  obtain ⟨entry, hentry, hshare, hrequest⟩ :=
    mem_requestsOf.mp ((prefix_requests_run _ _ _).subset hcall)
  rw [shares_recorded, List.mem_mapIdx] at hentry
  obtain ⟨place, hplace, rfl⟩ := hentry
  obtain rfl := List.mem_singleton.mp hrequest
  exact ⟨hshare, _, List.getElem?_eq_getElem hplace⟩

/-! ## Exactness -/

theorem mem_shares_iff (hentry : (partition sources assets).1[place]? = some (source, share)) :
    asset ∈ share ↔ asset ∈ assets ∧ source.supports asset = true ∧
      ∀ earlier ∈ sources.take place, earlier.supports asset = false := by
  rw [getElem?_shares] at hentry
  obtain ⟨_, hsource, hfound⟩ := Option.map_eq_some_iff.mp hentry
  obtain ⟨rfl, rfl⟩ := Prod.mk.inj hfound
  rw [List.mem_filter, mem_distinct, decide_eq_true_eq, owner?_eq_some_iff hsource]

theorem sublist_share (hentry : (partition sources assets).1[place]? = some (source, share)) :
    share.Sublist (distinct assets) := by
  rw [getElem?_shares] at hentry
  obtain ⟨_, -, hfound⟩ := Option.map_eq_some_iff.mp hentry
  obtain ⟨-, rfl⟩ := Prod.mk.inj hfound
  exact List.filter_sublist

/-- **A batch is divided exactly.**  There is one share for each source, in the order of priority.
Every asset of the batch is exactly once in the shares and among what is left over, and no other
asset is.  It is in the share of the first source that supports it, or left over if none does, and
all these lists are in the order of the first occurrences of the batch.  Hence a source is called
with assets that it supports and no source before it supports, and never without any. -/
theorem shares_exact (console : Console) (sources : List (Source ε)) (assets : List Asset) :
    let shares := (partition sources assets).1
    let left := (partition sources assets).2
    shares.map Prod.fst = sources ∧
      (∀ asset, (shares.flatMap Prod.snd ++ left).count asset = if asset ∈ assets then 1 else 0) ∧
      (∀ place source share, shares[place]? = some (source, share) →
        share.Sublist assets.eraseDups ∧
          ∀ asset, asset ∈ share ↔ asset ∈ assets ∧ source.supports asset = true ∧
            ∀ earlier ∈ sources.take place, earlier.supports asset = false) ∧
      (left.Sublist assets.eraseDups ∧
        ∀ asset, asset ∈ left ↔
          asset ∈ assets ∧ ∀ source ∈ sources, source.supports asset = false) ∧
      ∀ place called, (place, called) ∈ calls console sources assets →
        called ≠ [] ∧ ∃ source, sources[place]? = some source ∧
          ∀ asset ∈ called, source.supports asset = true ∧
            ∀ earlier ∈ sources.take place, earlier.supports asset = false := by
  intro shares left
  have hplaces : shares.map Prod.fst = sources := map_fst_divide sources (distinct assets)
  refine ⟨hplaces, fun asset => ?_, fun place source share hentry => ⟨?_, ?_⟩, ⟨?_, ?_⟩,
    fun place called hcall => ?_⟩
  · have hcount : (shares.flatMap Prod.snd ++ left).count asset = (distinct assets).count asset :=
      (perm_divide sources (distinct assets)).count_eq asset
    rw [hcount]
    split
    · exact List.count_eq_one_of_mem (nodup_distinct assets) (mem_distinct.mpr ‹_›)
    · exact List.count_eq_zero_of_not_mem (mt mem_distinct.mp ‹_›)
  · rw [← distinct_eq_eraseDups]
    exact sublist_share hentry
  · exact fun asset => mem_shares_iff hentry
  · rw [← distinct_eq_eraseDups]
    simp only [left, left_eq]
    exact List.filter_sublist
  · intro asset
    simp only [left, left_eq, List.mem_filter, mem_distinct, decide_eq_true_eq, owner?_eq_none_iff]
  · obtain ⟨hsome, source, hentry⟩ := share_of_mem_calls hcall
    have hsource : sources[place]? = some source := by
      rw [← hplaces, List.getElem?_map, hentry]
      rfl
    exact ⟨hsome, source, hsource, fun asset hasset => ((mem_shares_iff hentry).mp hasset).2⟩

end PriceBoard.Dispatch
