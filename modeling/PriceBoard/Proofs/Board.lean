import Mathlib.Data.Finset.Card
import PriceBoard.Board
import PriceBoard.Proofs.CoinInfo
import PriceBoard.Proofs.Entries

/-!
# What the board shows

The board shows the last record of every asset (`get?_publish`).  If the records of each asset are
all equal, it shows just the records (`get?_publish_eq_some_iff`), in whatever order and however
often they were published.

Every board that was published is `WellKeyed`: each record has its own key, and no key occurs twice.
Then the list of all records, the answers for single assets and those for lists of assets say the
same.
-/

namespace PriceBoard.Board

/-- The board shows the last record of an asset. -/
theorem get?_publish (records : List CoinInfo) (now : Int) (asset : Asset) :
    (publish records now).get? asset =
      records.reverse.find? fun record => record.asset = asset := by
  have hlast := valueAt?_foldl_setEntry CoinInfo.asset id asset records []
  change valueAt? asset (records.foldl _ []) = _
  simpa [valueAt?] using hlast

/-- If no asset has two different records, the board shows them all. -/
theorem get?_publish_eq_some_iff {records : List CoinInfo}
    (hagree : ∀ first ∈ records, ∀ second ∈ records, first.asset = second.asset → first = second)
    {now : Int} {asset : Asset} {record : CoinInfo} :
    (publish records now).get? asset = some record ↔ record ∈ records ∧ record.asset = asset := by
  rw [get?_publish]
  constructor
  · intro hfound
    exact ⟨List.mem_reverse.mp (List.mem_of_find?_eq_some hfound),
      by simpa using List.find?_some hfound⟩
  · rintro ⟨hrecord, rfl⟩
    cases hfound : records.reverse.find? fun other => other.asset = record.asset with
    | none =>
        rw [List.find?_eq_none] at hfound
        exact absurd (hfound record (List.mem_reverse.mpr hrecord)) (by simp)
    | some other =>
        -- the last record of the asset need not be this one, but it is equal to it
        have hother := List.mem_reverse.mp (List.mem_of_find?_eq_some hfound)
        have hasset : other.asset = record.asset := by simpa using List.find?_some hfound
        rw [hagree other hother record hrecord hasset]

/-! ## Keys -/

/-- Every record is under the key of its asset, and no key occurs twice. -/
structure WellKeyed (board : Board) : Prop where
  nodup : (board.rows.map Prod.fst).Nodup
  key_eq : ∀ row ∈ board.rows, row.1 = row.2.asset

theorem wellKeyed_empty : WellKeyed empty :=
  ⟨List.nodup_nil, fun _ hrow => absurd hrow List.not_mem_nil⟩

theorem wellKeyed_publish (records : List CoinInfo) (now : Int) :
    WellKeyed (publish records now) := by
  suffices h : ∀ rows : List (Asset × CoinInfo), WellKeyed ⟨rows, some now⟩ →
      WellKeyed ⟨records.foldl (fun rows record => setEntry record.asset record rows) rows,
        some now⟩ from h [] ⟨List.nodup_nil, fun _ hrow => absurd hrow List.not_mem_nil⟩
  induction records with
  | nil => exact fun _ hrows => hrows
  | cons record others ih =>
      intro rows hrows
      rw [List.foldl_cons]
      exact ih _ ⟨nodup_keys_setEntry hrows.nodup, forall_mem_setEntry rfl hrows.key_eq⟩

/-- There are as many records as different assets. -/
theorem size_publish (records : List CoinInfo) (now : Int) :
    (publish records now).size = (records.map CoinInfo.asset).toFinset.card := by
  let keys := (publish records now).rows.map Prod.fst
  have hnodup : keys.Nodup := (wellKeyed_publish records now).nodup
  have hkeys : keys.toFinset = (records.map CoinInfo.asset).toFinset := by
    ext key
    have hshown : key ∈ keys ↔ ((publish records now).get? key).isSome = true := by
      rw [Option.isSome_iff_exists, List.mem_map]
      constructor
      · rintro ⟨⟨key, record⟩, hrow, rfl⟩
        exact ⟨record, (mem_iff_valueAt? hnodup).mp hrow⟩
      · rintro ⟨record, hrecord⟩
        exact ⟨(key, record), mem_of_valueAt? hrecord, rfl⟩
    rw [List.mem_toFinset, List.mem_toFinset, hshown, get?_publish, List.isSome_find?]
    simp
  calc (publish records now).size
      = keys.length := by rw [size, List.length_map]
    _ = keys.toFinset.card := (List.toFinset_card_of_nodup hnodup).symm
    _ = (records.map CoinInfo.asset).toFinset.card := by rw [hkeys]

section Readers

variable {board : Board}

/-- What the board shows for an asset is a record of the list of all records, and conversely. -/
theorem WellKeyed.mem_toList_iff (hboard : board.WellKeyed) {record : CoinInfo} :
    record ∈ board.toList ↔ board.get? record.asset = some record := by
  rw [get?, ← mem_iff_valueAt? hboard.nodup, toList, List.mem_map]
  constructor
  · rintro ⟨row, hrow, rfl⟩
    rwa [← hboard.key_eq row hrow]
  · intro hmem
    exact ⟨_, hmem, rfl⟩

theorem WellKeyed.asset_of_get? (hboard : board.WellKeyed) {key : Asset} {record : CoinInfo}
    (hrecord : board.get? key = some record) : record.asset = key :=
  (hboard.key_eq _ (mem_of_valueAt? hrecord)).symm

theorem WellKeyed.nodup_toList (hboard : board.WellKeyed) :
    (board.toList.map CoinInfo.asset).Nodup := by
  have hkeys : board.toList.map CoinInfo.asset = board.rows.map Prod.fst := by
    rw [toList, List.map_map]
    exact List.map_congr_left fun row hrow => (hboard.key_eq row hrow).symm
  rw [hkeys]
  exact hboard.nodup

theorem lookup_singleton (asset : Asset) : board.lookup [asset] = (board.get? asset).toList := by
  cases hrecord : board.get? asset <;> simp [lookup, hrecord]

/-- The answer for a list of assets has the assets of the list that are shown, in their order and as
often as they were asked for. -/
theorem WellKeyed.map_asset_lookup (hboard : board.WellKeyed) (assets : List Asset) :
    (board.lookup assets).map CoinInfo.asset =
      assets.filter fun asset => (board.get? asset).isSome := by
  induction assets with
  | nil => rfl
  | cons asset others ih =>
      cases hrecord : board.get? asset with
      | none => simpa [lookup, hrecord] using ih
      | some record => simpa [lookup, hrecord, hboard.asset_of_get? hrecord] using ih

theorem WellKeyed.get?_of_mem_lookup (hboard : board.WellKeyed) {assets : List Asset}
    {record : CoinInfo} (hrecord : record ∈ board.lookup assets) :
    board.get? record.asset = some record := by
  obtain ⟨asset, -, hshown⟩ := List.mem_filterMap.mp hrecord
  rw [hboard.asset_of_get? hshown, hshown]

end Readers

/-! ## Lists that are sent out -/

/-- A list of records that is sent out is read back as it was. -/
theorem checkRecords_fields (records : List CoinInfo) :
    checkRecords (records.map CoinInfo.fields) = .ok records := by
  induction records with
  | nil => rfl
  | cons record others ih =>
      rw [checkRecords, List.map_cons, List.mapM_cons, CoinInfo.check_fields]
      change (checkRecords _ >>= _) = _
      rw [ih]
      rfl

end PriceBoard.Board
