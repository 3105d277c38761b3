import PriceBoard.Entries

/-!
# Looking up entries

What a table answers for a key after a value was set (`valueAt?_setEntry`) or many values were, one
after the other (`valueAt?_foldl_setEntry`: the last one counts); what all its entries still have in
common (`forall_mem_setEntry`); and that no key occurs twice (`nodup_keys_setEntry`), so that an
entry of the table is what the table answers for its key (`mem_iff_valueAt?`).
-/

namespace PriceBoard

variable {κ ν : Type} [DecidableEq κ]

theorem valueAt?_setEntry (key other : κ) (value : ν) (table : List (κ × ν)) :
    valueAt? key (setEntry other value table) =
      if other = key then some value else valueAt? key table := by
  induction table with
  | nil => simp [setEntry, valueAt?]
  | cons entry others ih =>
      by_cases hentry : entry.1 = other
      · by_cases hkey : other = key <;> simp [setEntry, valueAt?, hentry, hkey]
      · by_cases hkey : other = key
        · have hdistinct : entry.1 ≠ key := hkey ▸ hentry
          rw [setEntry, if_neg hentry, valueAt?, if_neg hdistinct, ih, if_pos hkey, if_pos hkey]
        · simp [setEntry, valueAt?, hentry, ih, hkey]

theorem valueAt?_map {μ : Type} (change : ν → μ) (key : κ) (table : List (κ × ν)) :
    valueAt? key (table.map fun entry => (entry.1, change entry.2)) =
      (valueAt? key table).map change := by
  induction table with
  | nil => rfl
  | cons entry others ih => by_cases hkey : entry.1 = key <;> simp [valueAt?, hkey, ih]

theorem mem_of_valueAt? {key : κ} {value : ν} {table : List (κ × ν)}
    (hvalue : valueAt? key table = some value) : (key, value) ∈ table := by
  induction table with
  | nil => cases hvalue
  | cons entry others ih =>
      by_cases hkey : entry.1 = key
      · rw [valueAt?, if_pos hkey] at hvalue
        cases hvalue
        subst hkey
        exact List.mem_cons_self
      · rw [valueAt?, if_neg hkey] at hvalue
        exact List.mem_cons_of_mem _ (ih hvalue)

theorem isSome_valueAt?_iff {key : κ} {table : List (κ × ν)} :
    (valueAt? key table).isSome = true ↔ key ∈ table.map Prod.fst := by
  induction table with
  | nil => simp [valueAt?]
  | cons entry others ih =>
      by_cases hkey : entry.1 = key
      · simp [valueAt?, hkey]
      · have hother : key ≠ entry.1 := fun heq => hkey heq.symm
        rw [valueAt?, if_neg hkey, ih, List.map_cons, List.mem_cons]
        simp [hother]

/-- Of many values that are set the last one counts. -/
theorem valueAt?_foldl_setEntry {ι : Type} (keyOf : ι → κ) (valueOf : ι → ν) (key : κ)
    (items : List ι) (table : List (κ × ν)) :
    valueAt? key (items.foldl (fun entries item => setEntry (keyOf item) (valueOf item) entries)
        table) =
      ((items.reverse.find? fun item => keyOf item = key).map valueOf).or
        (valueAt? key table) := by
  -- a later value overwrites the table, so the induction is for any table there was before
  induction items generalizing table with
  | nil => rfl
  | cons item others ih =>
      rw [List.foldl_cons, ih, valueAt?_setEntry, List.reverse_cons, List.find?_append,
        Option.map_or, Option.or_assoc]
      by_cases hitem : keyOf item = key <;> simp [hitem]

/-- A value that is set does not change what the others have in common. -/
theorem forall_mem_setEntry {property : κ × ν → Prop} {key : κ} {value : ν}
    {table : List (κ × ν)} (hvalue : property (key, value))
    (htable : ∀ entry ∈ table, property entry) :
    ∀ entry ∈ setEntry key value table, property entry := by
  induction table with
  | nil => simpa [setEntry] using hvalue
  | cons first others ih =>
      have hothers := ih fun entry hentry => htable entry (List.mem_cons_of_mem _ hentry)
      intro entry hentry
      by_cases hfirst : first.1 = key
      · rw [setEntry, if_pos hfirst] at hentry
        rcases List.mem_cons.mp hentry with rfl | hentry
        · exact hvalue
        · exact htable entry (List.mem_cons_of_mem _ hentry)
      · rw [setEntry, if_neg hfirst] at hentry
        rcases List.mem_cons.mp hentry with rfl | hentry
        · exact htable entry List.mem_cons_self
        · exact hothers entry hentry

/-! ## Distinct keys -/

theorem keys_setEntry (key : κ) (value : ν) (table : List (κ × ν)) :
    (setEntry key value table).map Prod.fst =
      if key ∈ table.map Prod.fst then table.map Prod.fst
      else table.map Prod.fst ++ [key] := by
  induction table with
  | nil => rfl
  | cons entry others ih =>
      by_cases hentry : entry.1 = key
      · simp [setEntry, hentry]
      · have hother : key ≠ entry.1 := fun heq => hentry heq.symm
        rw [setEntry, if_neg hentry, List.map_cons, ih]
        by_cases hmem : key ∈ others.map Prod.fst <;> simp [hmem, hother]

theorem nodup_keys_setEntry {key : κ} {value : ν} {table : List (κ × ν)}
    (hkeys : (table.map Prod.fst).Nodup) : ((setEntry key value table).map Prod.fst).Nodup := by
  rw [keys_setEntry]
  split
  · exact hkeys
  · rename_i hmem
    rw [List.nodup_append]
    refine ⟨hkeys, List.pairwise_singleton _ _, ?_⟩
    intro other hother found hfound heq
    rw [List.mem_singleton.mp hfound] at heq
    exact hmem (heq ▸ hother)

theorem setEntry_of_notMem {key : κ} {value : ν} {table : List (κ × ν)}
    (hkey : key ∉ table.map Prod.fst) : setEntry key value table = table ++ [(key, value)] := by
  induction table with
  | nil => rfl
  | cons entry others ih =>
      rw [List.map_cons, List.mem_cons, not_or] at hkey
      rw [setEntry, if_neg fun heq => hkey.1 heq.symm, ih hkey.2, List.cons_append]

/-- Values under distinct keys, which are all new, are added in their order. -/
theorem foldl_setEntry_of_nodup {ι : Type} (keyOf : ι → κ) (valueOf : ι → ν) (items : List ι)
    (table : List (κ × ν)) (hkeys : (table.map Prod.fst ++ items.map keyOf).Nodup) :
    items.foldl (fun entries item => setEntry (keyOf item) (valueOf item) entries) table =
      table ++ items.map fun item => (keyOf item, valueOf item) := by
  induction items generalizing table with
  | nil => simp
  | cons item others ih =>
      have hfirst : keyOf item ∉ table.map Prod.fst := by
        intro hmem
        rw [List.map_cons, List.nodup_append] at hkeys
        exact hkeys.2.2 _ hmem _ List.mem_cons_self rfl
      have hrest : ((table ++ [(keyOf item, valueOf item)]).map Prod.fst ++
          others.map keyOf).Nodup := by
        simpa using hkeys
      rw [List.foldl_cons, setEntry_of_notMem hfirst, ih _ hrest, List.append_assoc,
        List.map_cons, List.singleton_append]

/-- If no key occurs twice, an entry of the table is what the table answers for its key. -/
theorem mem_iff_valueAt? {key : κ} {value : ν} {table : List (κ × ν)}
    (hkeys : (table.map Prod.fst).Nodup) :
    (key, value) ∈ table ↔ valueAt? key table = some value := by
  refine ⟨fun hmem => ?_, mem_of_valueAt?⟩
  induction table with
  | nil => cases hmem
  | cons entry others ih =>
      rw [List.map_cons, List.nodup_cons] at hkeys
      rcases List.mem_cons.mp hmem with rfl | hmem
      · simp [valueAt?]
      · have hkey : entry.1 ≠ key := by
          intro heq
          exact hkeys.1 (heq ▸ List.mem_map_of_mem hmem)
        rw [valueAt?, if_neg hkey]
        exact ih hkeys.2 hmem

end PriceBoard
