import Mathlib.Data.List.Forall2
import PriceBoard.Outcome

/-!
# Running operations one after the other

What `Outcome`s leave when they are chained.  `result_bind`, `requests_bind_ok` and their companions
take a chain apart, so that no later proof looks at how outcomes are represented;
`mapM_eq_error_iff` says that reading a list fails with the first item that cannot be read.
-/

namespace PriceBoard

/-! ## Results -/

section Results

variable {ε α β : Type}

theorem bind_eq_ok {first : Except ε α} {next : α → Except ε β} {result : β}
    (hresult : (first >>= next) = .ok result) :
    ∃ value, first = .ok value ∧ next value = .ok result := by
  cases first with
  | error fault => cases hresult
  | ok value => exact ⟨value, rfl, hresult⟩

theorem map_eq_ok {first : Except ε α} {change : α → β} {result : β}
    (hresult : first.map change = .ok result) :
    ∃ value, first = .ok value ∧ change value = result := by
  cases first with
  | error fault => cases hresult
  | ok value => exact ⟨value, rfl, Except.ok.inj hresult⟩

theorem bind_eq_error {first : Except ε α} {next : α → Except ε β} {fault : ε}
    (hfault : (first >>= next) = .error fault) :
    first = .error fault ∨ ∃ value, first = .ok value ∧ next value = .error fault := by
  cases first with
  | error cause =>
      cases hfault
      exact .inl rfl
  | ok value => exact .inr ⟨value, rfl, hfault⟩

theorem map_eq_error {first : Except ε α} {change : α → β} {fault : ε}
    (hfault : first.map change = .error fault) : first = .error fault := by
  cases first with
  | error cause =>
      cases hfault
      rfl
  | ok value => cases hfault

theorem toOption_eq_some_iff {result : Except ε α} {value : α} :
    result.toOption = some value ↔ result = .ok value := by
  cases result <;> simp [Except.toOption]

theorem toOption_bind (first : Except ε α) (next : α → Except ε β) :
    (first >>= next).toOption = first.toOption.bind fun value => (next value).toOption := by
  cases first <;> rfl

theorem mapM_eq_ok_cons {f : α → Except ε β} {item : α} {items : List α} {values : List β}
    (hvalues : (item :: items).mapM f = .ok values) :
    ∃ value rest, f item = .ok value ∧ items.mapM f = .ok rest ∧ values = value :: rest := by
  rw [List.mapM_cons] at hvalues
  cases hitem : f item with
  | error fault => simp [hitem, bind, Except.bind] at hvalues
  | ok value =>
      cases hrest : items.mapM f with
      | error fault => simp [hitem, hrest, bind, Except.bind] at hvalues
      | ok rest =>
          simp only [hitem, hrest, bind, Except.bind, pure, Except.pure] at hvalues
          cases hvalues
          exact ⟨value, rest, rfl, rfl, rfl⟩

/-- Everything that was read comes from an item. -/
theorem mem_of_mapM_eq_ok {f : α → Except ε β} {items : List α} {values : List β}
    (hvalues : items.mapM f = .ok values) {value : β} (hvalue : value ∈ values) :
    ∃ item ∈ items, f item = .ok value := by
  induction items generalizing values with
  | nil =>
      cases hvalues
      cases hvalue
  | cons first rest ih =>
      obtain ⟨head, tail, hfirst, hrest, rfl⟩ := mapM_eq_ok_cons hvalues
      rcases List.mem_cons.mp hvalue with rfl | hmem
      · exact ⟨first, List.mem_cons_self, hfirst⟩
      · obtain ⟨item, hitem, hread⟩ := ih hrest hmem
        exact ⟨item, List.mem_cons_of_mem _ hitem, hread⟩

/-- What was read stands in the order of the items. -/
theorem forall₂_of_mapM_eq_ok {f : α → Except ε β} {items : List α} {values : List β}
    (hvalues : items.mapM f = .ok values) :
    List.Forall₂ (fun item value => f item = .ok value) items values := by
  induction items generalizing values with
  | nil =>
      cases hvalues
      exact List.Forall₂.nil
  | cons first rest ih =>
      obtain ⟨head, tail, hfirst, hrest, rfl⟩ := mapM_eq_ok_cons hvalues
      exact List.Forall₂.cons hfirst (ih hrest)

/-- If a list was read, every item could be. -/
theorem exists_of_mapM_eq_ok {f : α → Except ε β} {items : List α} {values : List β}
    (hvalues : items.mapM f = .ok values) : ∀ item ∈ items, ∃ value, f item = .ok value := by
  have hboth := (forall₂_of_mapM_eq_ok hvalues).imp fun item value hread =>
    And.intro (Exists.intro value hread) hread
  exact ((List.forall₂_and_left items values).mp hboth).1

/-- Reading a list fails just as its first item that cannot be read. -/
theorem mapM_eq_error_iff {f : α → Except ε β} {items : List α} {fault : ε} :
    items.mapM f = .error fault ↔
      ∃ before item after, items = before ++ item :: after ∧
        (∀ earlier ∈ before, ∃ value, f earlier = .ok value) ∧ f item = .error fault := by
  induction items with
  | nil => simp [pure, Except.pure]
  | cons first rest ih =>
      rw [List.mapM_cons]
      constructor
      · -- the first fault is that of the first item, or else that of the rest
        intro hfault
        cases hfirst : f first with
        | error cause =>
            simp only [hfirst, bind, Except.bind] at hfault
            cases hfault
            exact ⟨[], first, rest, rfl, by simp, hfirst⟩
        | ok value =>
            cases hrest : rest.mapM f with
            | ok values => simp [hfirst, hrest, bind, Except.bind, pure, Except.pure] at hfault
            | error cause =>
                simp only [hfirst, hrest, bind, Except.bind] at hfault
                cases hfault
                obtain ⟨before, item, after, rfl, hbefore, hitem⟩ := ih.mp hrest
                refine ⟨first :: before, item, after, rfl, ?_, hitem⟩
                simpa using ⟨⟨value, hfirst⟩, hbefore⟩
      · rintro ⟨before, item, after, hsplit, hbefore, hitem⟩
        cases before with
        | nil =>
            cases hsplit
            simp [hitem, bind, Except.bind]
        | cons _ before =>
            obtain ⟨rfl, rfl⟩ := List.cons.inj hsplit
            obtain ⟨value, hvalue⟩ := hbefore first List.mem_cons_self
            have hrest := ih.mpr ⟨before, item, after, rfl,
              fun earlier hearlier => hbefore earlier (List.mem_cons_of_mem _ hearlier), hitem⟩
            rw [List.append_eq] at hrest
            rw [hvalue, List.append_eq, hrest]
            rfl

theorem exists_mapM_eq_ok {f : α → Except ε β} {items : List α}
    (hitems : ∀ item ∈ items, ∃ value, f item = .ok value) :
    ∃ values, items.mapM f = .ok values := by
  cases hvalues : items.mapM f with
  | ok values => exact ⟨values, rfl⟩
  | error fault =>
      obtain ⟨before, item, after, rfl, -, hitem⟩ := mapM_eq_error_iff.mp hvalues
      obtain ⟨value, hvalue⟩ := hitems item (by simp)
      cases hitem.symm.trans hvalue

/-- A list of which every item can be read can be read, item by item. -/
theorem mapM_eq_ok_of_forall {f : α → Except ε β} {read : α → β} {items : List α}
    (hitems : ∀ item ∈ items, f item = .ok (read item)) : items.mapM f = .ok (items.map read) := by
  induction items with
  | nil => rfl
  | cons first rest ih =>
      have hfirst := hitems first List.mem_cons_self
      have hrest := ih fun item hitem => hitems item (List.mem_cons_of_mem _ hitem)
      simp [List.mapM_cons, hfirst, hrest, bind, Except.bind, pure, Except.pure]

end Results

/-! ## Chains -/

namespace Outcome

variable {ε α β : Type}

@[simp] theorem result_pure (value : α) : (pure value : Outcome ε α).result = .ok value := rfl

@[simp] theorem result_ofExcept (result : Except Fault α) :
    (ofExcept result : Outcome ε α).result = result := rfl

@[simp] theorem result_note (line : String) : (note line : Outcome ε Unit).result = .ok () := rfl

@[simp] theorem result_notes (lines : List String) :
    (notes lines : Outcome ε Unit).result = .ok () := rfl

@[simp] theorem result_print (console : Console) (line : Spelling) :
    (print console line : Outcome ε Unit).result = (console.print line).map fun _ => () := by
  unfold print
  cases console.print line <;> rfl

@[simp] theorem result_attempt (operation : Outcome ε α) :
    operation.attempt.result = .ok operation.result := rfl

theorem result_bind (first : Outcome ε α) (next : α → Outcome ε β) :
    (first >>= next).result = first.result >>= fun value => (next value).result := by
  change (first.andThen next).result = _
  unfold andThen
  cases first.result <;> rfl

theorem result_bind_ok {first : Outcome ε α} {value : α} (hfirst : first.result = .ok value)
    (next : α → Outcome ε β) : (first >>= next).result = (next value).result := by
  rw [result_bind, hfirst]
  rfl

theorem collect_congr {first second : α → Outcome ε (List β)} {items : List α}
    (hsame : ∀ item ∈ items, first item = second item) :
    collect first items = collect second items := by
  induction items with
  | nil => rfl
  | cons item others ih =>
      rw [collect, collect, hsame item List.mem_cons_self,
        ih fun other hother => hsame other (List.mem_cons_of_mem _ hother)]

/-- If every operation has a result, so has the collection. -/
theorem result_collect {operation : α → Outcome ε (List β)} {read : α → List β} {items : List α}
    (hitems : ∀ item ∈ items, (operation item).result = .ok (read item)) :
    (collect operation items).result = .ok (items.flatMap read) := by
  induction items with
  | nil => rfl
  | cons first rest ih =>
      have hfirst := hitems first List.mem_cons_self
      have hrest := ih fun item hitem => hitems item (List.mem_cons_of_mem _ hitem)
      rw [collect, result_bind_ok hfirst, result_bind_ok hrest]
      rfl

/-! ## Requests -/

@[simp] theorem requests_pure (value : α) : (pure value : Outcome ε α).requests = [] := rfl

@[simp] theorem requests_done (value : α) : (done value : Outcome ε α).requests = [] := rfl

@[simp] theorem requests_note (line : String) : (note line : Outcome ε Unit).requests = [] := rfl

@[simp] theorem requests_notes (lines : List String) :
    (notes lines : Outcome ε Unit).requests = [] := rfl

@[simp] theorem requests_print (console : Console) (line : Spelling) :
    (print console line : Outcome ε Unit).requests = [] := by
  unfold print
  cases console.print line <;> rfl

@[simp] theorem requests_attempt (operation : Outcome ε α) :
    operation.attempt.requests = operation.requests := rfl

@[simp] theorem requests_ofExcept (result : Except Fault α) :
    (ofExcept result : Outcome ε α).requests = [] := rfl

theorem requests_bind_ok {first : Outcome ε α} {value : α} (hfirst : first.result = .ok value)
    (next : α → Outcome ε β) :
    (first >>= next).requests = first.requests ++ (next value).requests := by
  change (first.andThen next).requests = _
  simp only [andThen, hfirst]

theorem requests_bind_error {first : Outcome ε α} {fault : Fault}
    (hfirst : first.result = .error fault) (next : α → Outcome ε β) :
    (first >>= next).requests = first.requests := by
  change (first.andThen next).requests = _
  simp only [andThen, hfirst]

/-- If what follows makes no request, there are those of the beginning. -/
theorem requests_bind_eq_first {first : Outcome ε α} {next : α → Outcome ε β}
    (hnext : ∀ value, (next value).requests = []) :
    (first >>= next).requests = first.requests := by
  change (first.andThen next).requests = _
  unfold andThen
  cases first.result with
  | error fault => rfl
  | ok value => simp [hnext]

theorem requests_collect_eq_nil {operation : α → Outcome ε (List β)} {items : List α}
    (hitems : ∀ item, (operation item).requests = []) :
    (collect operation items).requests = [] := by
  induction items with
  | nil => rfl
  | cons first rest ih =>
      rw [collect, requests_bind_eq_first fun value => ?_, hitems]
      rw [requests_bind_eq_first fun _ => rfl, ih]

/-- If every operation has a result, each of them makes its requests, in their order. -/
theorem requests_collect {operation : α → Outcome ε (List β)} {items : List α}
    (hitems : ∀ item ∈ items, ∃ read, (operation item).result = .ok read) :
    (collect operation items).requests = items.flatMap fun item => (operation item).requests := by
  induction items with
  | nil => rfl
  | cons first rest ih =>
      obtain ⟨read, hfirst⟩ := hitems first List.mem_cons_self
      have hrest := ih fun item hitem => hitems item (List.mem_cons_of_mem _ hitem)
      rw [collect, requests_bind_ok hfirst, requests_bind_eq_first fun _ => rfl, hrest,
        List.flatMap_cons]

/-- The first operation that fails ends the collection: those behind it make no request. -/
theorem collect_of_error {operation : α → Outcome ε (List β)} {before : List α} {item : α}
    {fault : Fault} (after : List α)
    (hbefore : ∀ earlier ∈ before, ∃ read, (operation earlier).result = .ok read)
    (hitem : (operation item).result = .error fault) :
    (collect operation (before ++ item :: after)).result = .error fault ∧
      (collect operation (before ++ item :: after)).requests =
        (before ++ [item]).flatMap fun entry => (operation entry).requests := by
  induction before with
  | nil =>
      rw [List.nil_append, collect]
      refine ⟨?_, ?_⟩
      · rw [result_bind, hitem]
        rfl
      · rw [requests_bind_error hitem]
        simp
  | cons first rest ih =>
      obtain ⟨read, hfirst⟩ := hbefore first List.mem_cons_self
      obtain ⟨hresult, hrequests⟩ := ih fun earlier hearlier =>
        hbefore earlier (List.mem_cons_of_mem _ hearlier)
      rw [List.cons_append, collect]
      refine ⟨?_, ?_⟩
      · rw [result_bind_ok hfirst, result_bind, hresult]
        rfl
      · rw [requests_bind_ok hfirst, requests_bind_eq_first fun _ => rfl, hrequests]
        rfl

end Outcome

end PriceBoard
