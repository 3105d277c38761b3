import Mathlib.Data.List.Basic
import PriceBoard.Proofs.Outcome
import PriceBoard.Proofs.Quotation
import PriceBoard.Source.Custom

/-!
# Custom feeds are independent

A feed that fails is noted and left out, so the custom source has quotations whatever its feeds do,
and just those of the feeds that succeed (`result_quotations`).  A feed quotes its own asset, under
its own names, whichever spelling of the asset was asked for.
-/

namespace PriceBoard.Custom

variable {ε : Type}

/-! ## The source -/

theorem result_quotationOrNote (feeds : List (Feed ε)) (asset : Asset) :
    (quotationOrNote feeds asset).result =
      .ok (quotation feeds asset).result.toOption.toList := by
  unfold quotationOrNote
  rw [Outcome.result_bind_ok (Outcome.result_attempt _)]
  cases (quotation feeds asset).result <;> rfl

/-- The custom source has the quotations of the feeds that succeed, however the others end. -/
theorem result_quotations (feeds : List (Feed ε)) (assets : List Asset) :
    (quotations feeds assets).result =
      .ok (assets.flatMap fun asset => (quotation feeds asset).result.toOption.toList) :=
  Outcome.result_collect fun asset _ => result_quotationOrNote feeds asset

theorem perm_quotations (feeds : List (Feed ε)) (assets : List Asset) :
    ∃ found, (quotations feeds assets).result = .ok found ∧
      found.Perm (assets.filterMap fun asset => (quotation feeds asset).result.toOption) := by
  refine ⟨_, result_quotations feeds assets, List.Perm.of_eq ?_⟩
  rw [List.filterMap_eq_flatMap_toList]

/-! ## Requests -/

theorem requests_quotationOrNote (feeds : List (Feed ε)) (asset : Asset) :
    (quotationOrNote feeds asset).requests = (quotation feeds asset).requests := by
  refine Outcome.requests_bind_eq_first fun outcome => ?_
  cases outcome with
  | ok found => rfl
  | error fault => exact Outcome.requests_bind_eq_first fun _ => rfl

/-- The feeds are asked asset by asset, however those before have ended. -/
theorem requests_quotations (feeds : List (Feed ε)) (assets : List Asset) :
    (quotations feeds assets).requests =
      assets.flatMap fun asset => (quotation feeds asset).requests := by
  unfold quotations
  rw [Outcome.requests_collect fun asset _ => ⟨_, result_quotationOrNote feeds asset⟩]
  simp only [requests_quotationOrNote]

/-- Every request is one of a feed that is in charge of an asset. -/
theorem mem_requests_quotations {feeds : List (Feed ε)} {assets : List Asset} {request : ε}
    (hrequest : request ∈ (quotations feeds assets).requests) :
    ∃ feed ∈ feeds, ∃ asset ∈ assets, request ∈ (feed.quotation asset).requests := by
  rw [requests_quotations] at hrequest
  obtain ⟨asset, hasset, hrequest⟩ := List.mem_flatMap.mp hrequest
  unfold quotation at hrequest
  cases hfeed : feedFor? feeds asset with
  | none =>
      rw [hfeed] at hrequest
      cases hrequest
  | some feed =>
      rw [hfeed] at hrequest
      exact ⟨feed, List.mem_of_find?_eq_some hfeed, asset, hasset, hrequest⟩

theorem requests_indexFeed (price : Outcome ε Decimal) (now : Int) (asset : Asset) :
    ((indexFeed price now).quotation asset).requests = price.requests :=
  Outcome.requests_bind_eq_first fun _ => rfl

theorem requests_crossRate (rate : CrossRate) (ticker : String → Outcome ε Decimal) (now : Int)
    (asset : Asset) :
    ((rate.feed ticker now).quotation asset).requests = (ticker rate.market).requests := by
  refine Outcome.requests_bind_eq_first fun marketPrice => ?_
  have hinverse : (rate.inverse marketPrice : Outcome ε Decimal).requests = [] := by
    unfold CrossRate.inverse
    split
    · rfl
    · exact Outcome.requests_bind_eq_first fun _ => rfl
    · rfl
  rw [Outcome.requests_bind_eq_first fun price => ?_, hinverse]
  exact Outcome.requests_bind_eq_first fun _ => rfl

/-! ## Names -/

theorem names_of_quote {blockchain symbol : String} {price : Decimal} {now : Int}
    {found : Quotation} (hquote : quote blockchain symbol price now = .ok found) :
    found.blockchain = some blockchain ∧ found.symbol = symbol :=
  Quotation.names_of_report hquote

theorem names_of_indexFeed {price : Outcome ε Decimal} {now : Int} {asset : Asset}
    {found : Quotation} (hfound : ((indexFeed price now).quotation asset).result = .ok found) :
    found.blockchain = some indexBlockchain ∧ found.symbol = indexSymbol := by
  rw [indexFeed, Outcome.result_bind] at hfound
  cases hprice : price.result with
  | error fault => simp [hprice, bind, Except.bind] at hfound
  | ok value =>
      rw [hprice] at hfound
      exact names_of_quote hfound

theorem names_of_crossRate {rate : CrossRate} {ticker : String → Outcome ε Decimal} {now : Int}
    {asset : Asset} {found : Quotation}
    (hfound : ((rate.feed ticker now).quotation asset).result = .ok found) :
    found.blockchain = some rate.blockchain ∧ found.symbol = rate.symbol := by
  simp only [CrossRate.feed, Outcome.result_bind, Outcome.result_ofExcept] at hfound
  -- the three steps before the quotation must have succeeded
  obtain ⟨marketPrice, -, hfound⟩ := bind_eq_ok hfound
  obtain ⟨price, -, hfound⟩ := bind_eq_ok hfound
  obtain ⟨reduced, -, hfound⟩ := bind_eq_ok hfound
  exact names_of_quote hfound

end PriceBoard.Custom
