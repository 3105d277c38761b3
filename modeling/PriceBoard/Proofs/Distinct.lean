import Mathlib.Data.List.Perm.Basic
import PriceBoard.Distinct

/-!
# Nothing is lost among distinct items

`distinct` and `groupByLabel` keep all items: what is asked once each is still asked for everything
(`mem_distinct`), and every item is in the group of its own label and in no other, so that going
through the groups is going through the items in another order (`perm_flatMap_groupByLabel`).
-/

namespace PriceBoard

variable {α β : Type}

@[simp] theorem mem_distinct [DecidableEq α] {item : α} {items : List α} :
    item ∈ distinct items ↔ item ∈ items := by
  induction items with
  | nil => simp [distinct]
  | cons first rest ih =>
      by_cases hitem : item = first
      · simp [distinct, hitem]
      · simp [distinct, hitem, ih]

@[simp] theorem distinct_singleton [DecidableEq α] (item : α) : distinct [item] = [item] := by
  simp [distinct]

@[simp] theorem groupByLabel_nil [DecidableEq β] (label : α → β) :
    groupByLabel label [] = [] := rfl

theorem groupByLabel_eq_nil_iff [DecidableEq β] (label : α → β) (items : List α) :
    groupByLabel label items = [] ↔ items = [] := by
  cases items with
  | nil => simp
  | cons first rest => simp [groupByLabel, distinct]

theorem nodup_distinct [DecidableEq α] (items : List α) : (distinct items).Nodup := by
  induction items with
  | nil => exact List.nodup_nil
  | cons first rest ih => exact List.nodup_cons.mpr ⟨by simp, ih.filter _⟩

theorem distinct_of_nodup [DecidableEq α] {items : List α} (hnodup : items.Nodup) :
    distinct items = items := by
  induction items with
  | nil => rfl
  | cons first rest ih =>
      obtain ⟨hfirst, hrest⟩ := List.nodup_cons.mp hnodup
      have hkept : rest.filter (fun item => decide (item ≠ first)) = rest := by
        rw [List.filter_eq_self]
        intro item hitem
        simpa using ne_of_mem_of_not_mem hitem hfirst
      rw [distinct, ih hrest, hkept]

/-- Distinct items are in the order in which they first occur. -/
theorem pairwise_idxOf_distinct [DecidableEq α] (items : List α) :
    (distinct items).Pairwise fun first second => items.idxOf first < items.idxOf second := by
  induction items with
  | nil => exact List.Pairwise.nil
  | cons first rest ih =>
      have hlater : ∀ item ∈ (distinct rest).filter (· ≠ first),
          (first :: rest).idxOf item = rest.idxOf item + 1 := by
        intro item hitem
        have hne : item ≠ first := by simpa using (List.mem_filter.mp hitem).2
        exact List.idxOf_cons_ne rest hne.symm
      refine List.pairwise_cons.mpr ⟨?_, (ih.filter _).imp_of_mem ?_⟩
      · intro item hitem
        rw [hlater item hitem, List.idxOf_cons_self]
        exact Nat.succ_pos _
      · intro item other hitem hother hlt
        rw [hlater item hitem, hlater other hother]
        exact Nat.succ_lt_succ hlt

/-- Taking some of the items commutes with taking each once. -/
theorem distinct_filter [DecidableEq α] (keep : α → Bool) (items : List α) :
    distinct (items.filter keep) = (distinct items).filter keep := by
  induction items with
  | nil => rfl
  | cons first rest ih =>
      cases hkeep : keep first with
      | true =>
          simp only [List.filter_cons, hkeep, if_true, distinct, ih, List.filter_filter]
          simp only [Bool.and_comm]
      | false =>
          -- what is kept is not the first item anyway
          have hsame : ∀ item ∈ distinct rest, keep item =
              (keep item && decide (item ≠ first)) := by
            intro item _
            by_cases hitem : item = first <;> simp [hitem, hkeep]
          simp only [List.filter_cons, hkeep, Bool.false_eq_true, if_false, distinct, ih,
            List.filter_filter]
          exact List.filter_congr hsame

theorem distinct_eq_eraseDups [DecidableEq α] (items : List α) :
    distinct items = items.eraseDups := by
  match items with
  | [] => rfl
  | first :: rest =>
      have hshorter : (rest.filter fun item => !item == first).length ≤ rest.length :=
        List.length_filter_le _ _
      rw [distinct, List.eraseDups_cons, ← distinct_eq_eraseDups, distinct_filter]
      congr 1
      refine List.filter_congr fun item _ => ?_
      by_cases hitem : item = first <;> simp [hitem]
termination_by items.length

/-- Items that are put behind the known ones, unless they are known, are there once each. -/
theorem foldl_append_unknown [DecidableEq α] (items known : List α) :
    items.foldl (fun known item => if item ∈ known then known else known ++ [item]) known =
      known ++ (distinct items).filter (· ∉ known) := by
  induction items generalizing known with
  | nil => simp [distinct]
  | cons first rest ih =>
      rw [List.foldl_cons, ih, distinct, List.filter_cons, List.filter_filter]
      by_cases hfirst : first ∈ known
      · -- what is not known is not the first item either
        have hsame : ∀ item ∈ distinct rest, decide (item ∉ known) =
            (decide (item ∉ known) && decide (item ≠ first)) := by
          intro item _
          by_cases hitem : item = first <;> simp [hitem, hfirst]
        rw [if_pos hfirst, List.filter_congr hsame]
        simp [hfirst]
      · have hsame : ∀ item ∈ distinct rest, decide (item ∉ known ++ [first]) =
            (decide (item ∉ known) && decide (item ≠ first)) := by
          intro item _
          simp
        rw [if_neg hfirst, List.filter_congr hsame]
        simp [hfirst]

/-- The members under some labels, label by label. -/
theorem perm_flatMap_filter [DecidableEq β] (label : α → β) (items : List α) {names : List β}
    (hnames : names.Nodup) :
    (names.flatMap fun name => items.filter fun item => label item = name).Perm
      (items.filter fun item => label item ∈ names) := by
  induction names with
  | nil => simp
  | cons name others ih =>
      obtain ⟨hname, hothers⟩ := List.nodup_cons.mp hnames
      -- the members under the first label, and then all others
      have hsplit := List.filter_append_perm (fun item => decide (label item = name))
        (items.filter fun item => label item ∈ name :: others)
      have hfirst : (items.filter fun item => decide (label item ∈ name :: others)).filter
          (fun item => decide (label item = name)) = items.filter fun item => label item = name := by
        rw [List.filter_filter]
        refine List.filter_congr fun item _ => ?_
        by_cases hlabel : label item = name <;> simp [hlabel]
      have hrest : (items.filter fun item => decide (label item ∈ name :: others)).filter
          (fun item => !decide (label item = name)) =
            items.filter fun item => label item ∈ others := by
        rw [List.filter_filter]
        refine List.filter_congr fun item _ => ?_
        by_cases hlabel : label item = name <;> simp [hlabel, hname]
      rw [hfirst, hrest] at hsplit
      exact ((ih hothers).append_left _).trans hsplit

/-- What is found group by group is what is found item by item. -/
theorem perm_flatMap_groupByLabel {γ : Type} [DecidableEq β] (label : α → β) (items : List α)
    (find? : β → α → Option γ) :
    ((groupByLabel label items).flatMap fun group => group.2.filterMap (find? group.1)).Perm
      (items.filterMap fun item => find? (label item) item) := by
  have hgroups : ((groupByLabel label items).flatMap fun group =>
      group.2.filterMap (find? group.1)) =
        ((distinct (items.map label)).flatMap fun name =>
          items.filter fun item => label item = name).filterMap
            fun item => find? (label item) item := by
    rw [groupByLabel, List.flatMap_map, List.filterMap_flatMap]
    refine List.flatMap_congr fun name _ => List.filterMap_congr fun item hitem => ?_
    rw [of_decide_eq_true (List.mem_filter.mp hitem).2]
  have hall : (items.filter fun item => label item ∈ distinct (items.map label)) = items := by
    rw [List.filter_eq_self]
    intro item hitem
    simpa using ⟨item, hitem, rfl⟩
  have hperm := perm_flatMap_filter label items (nodup_distinct (items.map label))
  rw [hall] at hperm
  rw [hgroups]
  exact hperm.filterMap _

end PriceBoard
