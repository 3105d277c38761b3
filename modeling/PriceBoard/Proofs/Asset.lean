import PriceBoard.Asset
import PriceBoard.Proofs.Distinct
import PriceBoard.Proofs.Outcome
import PriceBoard.Proofs.Text.Split

/-!
# Written assets

An asset can be written if its two names are no more and no less than what a reader takes for them:
`Writable`.  Whatever is read can be written (`writable_of_parseItems`), and a list of such assets is
read from its written form again (`parseItems_commaJoin`).
-/

namespace PriceBoard.Asset

variable {asset : Asset} {assets : List Asset} {written : String}

/-- The names are not empty and have no blanks around them and no commas, and the first one has no
colon. -/
structure Writable (asset : Asset) : Prop where
  blockchain_ne_empty : asset.blockchain ≠ ""
  symbol_ne_empty : asset.symbol ≠ ""
  strip_blockchain : Text.strip asset.blockchain = asset.blockchain
  strip_symbol : Text.strip asset.symbol = asset.symbol
  comma_notMem_blockchain : ',' ∉ asset.blockchain.toList
  comma_notMem_symbol : ',' ∉ asset.symbol.toList
  colon_notMem_blockchain : ':' ∉ asset.blockchain.toList

/-! ## Written forms -/

theorem toList_text (asset : Asset) :
    asset.text.toList = asset.blockchain.toList ++ ':' :: asset.symbol.toList := by
  simp [text]

/-- A written asset is no blank item. -/
theorem isBlankText_text (asset : Asset) : Text.isBlankText asset.text = false := by
  have hcolon : Text.isBlank ':' = false := by decide
  simp [Text.isBlankText, toList_text, hcolon]

theorem Writable.comma_notMem_text (hwritable : asset.Writable) : ',' ∉ asset.text.toList := by
  rw [toList_text]
  intro hcomma
  rcases List.mem_append.mp hcomma with hblockchain | hsymbol
  · exact hwritable.comma_notMem_blockchain hblockchain
  · rcases List.mem_cons.mp hsymbol with hcolon | hsymbol
    · cases hcolon
    · exact hwritable.comma_notMem_symbol hsymbol

theorem trimWord_of_strip {name : String} (hstrip : Text.strip name = name) :
    Text.trimWord Text.isBlank name.toList = name.toList := by
  have hletters := congrArg String.toList hstrip
  rwa [Text.strip, String.toList_ofList] at hletters

/-- An asset is read from its written form again. -/
theorem Writable.parse_text (hwritable : asset.Writable) : parse asset.text = .ok asset := by
  obtain ⟨blockchain, symbol⟩ := asset
  have hfirst := trimWord_of_strip hwritable.strip_blockchain
  have hsecond := trimWord_of_strip hwritable.strip_symbol
  have hfirstNe : blockchain.toList ≠ [] := by simpa using hwritable.blockchain_ne_empty
  have hsecondNe : symbol.toList ≠ [] := by simpa using hwritable.symbol_ne_empty
  have htrim : Text.trimWord Text.isBlank (blockchain.toList ++ ':' :: symbol.toList) =
      blockchain.toList ++ ':' :: symbol.toList := by
    have happend := Text.trimWord_append hfirst hsecond hfirstNe hsecondNe [':']
    rwa [List.append_assoc] at happend
  have hcut := Text.cutWord_append hwritable.colon_notMem_blockchain symbol.toList
  simp only [parse, toList_text, htrim, hcut, hfirst, hsecond]
  simp [hfirstNe, hsecondNe]

/-- Assets are read from the join of their written forms again. -/
theorem parseItems_commaJoin (hwritable : ∀ asset ∈ assets, asset.Writable) :
    parseItems (Text.commaJoin (assets.map text)) = .ok assets := by
  cases assets with
  | nil => rfl
  | cons first others =>
      have hfree : ∀ item ∈ (first :: others).map text, ',' ∉ item.toList := by
        intro item hitem
        obtain ⟨asset, hasset, rfl⟩ := List.mem_map.mp hitem
        exact (hwritable asset hasset).comma_notMem_text
      have hkept : ((first :: others).map text).filter (fun item => !Text.isBlankText item) =
          (first :: others).map text := by
        rw [List.filter_eq_self]
        intro item hitem
        obtain ⟨asset, -, rfl⟩ := List.mem_map.mp hitem
        simp [isBlankText_text]
      have hread : (first :: others).mapM (parse ∘ text) = .ok ((first :: others).map id) :=
        mapM_eq_ok_of_forall fun asset hasset => (hwritable asset hasset).parse_text
      rw [parseItems, Text.split_commaJoin (by simp) hfree, hkept, List.mapM_map, hread,
        List.map_id]

/-! ## Reading -/

/-- What is read can be written. -/
theorem writable_of_parse (hparse : parse written = .ok asset) (hcomma : ',' ∉ written.toList) :
    asset.Writable := by
  unfold parse at hparse
  cases hcut : Text.cutWord ':' (Text.trimWord Text.isBlank written.toList) with
  | none => simp [hcut] at hparse
  | some parts =>
      obtain ⟨before, after⟩ := parts
      obtain ⟨hword, hcolon⟩ := Text.eq_append_of_cutWord hcut
      have hkept : ∀ part, (∀ letter ∈ part, letter ∈ before ++ ':' :: after) →
          ',' ∉ Text.trimWord Text.isBlank part := by
        intro part hpart hmem
        have hletter := hpart ',' (Text.mem_of_mem_trimWord hmem)
        rw [← hword] at hletter
        exact hcomma (Text.mem_of_mem_trimWord hletter)
      simp only [hcut] at hparse
      split at hparse
      · cases hparse
      · rename_i hne
        cases hparse
        simp only [Bool.or_eq_true, List.isEmpty_iff, not_or] at hne
        constructor
        · simpa using hne.1
        · simpa using hne.2
        · simp [Text.strip, Text.trimWord_trimWord]
        · simp [Text.strip, Text.trimWord_trimWord]
        · rw [String.toList_ofList]
          exact hkept before fun letter hletter => List.mem_append_left _ hletter
        · rw [String.toList_ofList]
          exact hkept after fun letter hletter =>
            List.mem_append_right _ (List.mem_cons_of_mem _ hletter)
        · rw [String.toList_ofList]
          intro hmem
          exact hcolon (Text.mem_of_mem_trimWord hmem)

theorem writable_of_parseItems (hparse : parseItems written = .ok assets) :
    ∀ asset ∈ assets, asset.Writable := by
  intro asset hasset
  obtain ⟨item, hitem, hread⟩ := mem_of_mapM_eq_ok hparse hasset
  apply writable_of_parse hread
  obtain ⟨word, hword, rfl⟩ := List.mem_map.mp (List.mem_filter.mp hitem).1
  rw [String.toList_ofList]
  intro hcomma
  exact (Text.mem_and_ne_of_mem_splitWord hword hcomma).2 rfl

theorem parseUniverse_eq_ok_iff :
    parseUniverse written = .ok assets ↔
      ∃ items, parseItems written = .ok items ∧ distinct items = assets := by
  unfold parseUniverse
  cases parseItems written <;> simp [Except.map]

theorem writable_of_parseUniverse (hparse : parseUniverse written = .ok assets) :
    ∀ asset ∈ assets, asset.Writable := by
  obtain ⟨items, hitems, rfl⟩ := parseUniverse_eq_ok_iff.mp hparse
  intro asset hasset
  exact writable_of_parseItems hitems asset (mem_distinct.mp hasset)

/-! ## One item after the other -/

/-- Reads one more item of a list: a blank one is skipped, and an asset that was read already is not
read again. -/
def addItem (known : List Asset) (item : String) : Except Malformed (List Asset) :=
  if Text.isBlankText item then .ok known
  else do
    let asset ← parse item
    return if asset ∈ known then known else known ++ [asset]

theorem foldlM_addItem (items : List String) (known : List Asset) :
    items.foldlM addItem known =
      ((items.filter fun item => !Text.isBlankText item).mapM parse).map fun assets =>
        known ++ (distinct assets).filter (· ∉ known) := by
  have hfold : items.foldlM addItem known =
      ((items.filter fun item => !Text.isBlankText item).mapM parse).map fun assets =>
        assets.foldl (fun known asset => if asset ∈ known then known else known ++ [asset])
          known := by
    induction items generalizing known with
    | nil => rfl
    | cons item others ih =>
        rw [List.foldlM_cons, List.filter_cons]
        cases hblank : Text.isBlankText item with
        | true =>
            have hstep : addItem known item = .ok known := by simp [addItem, hblank]
            rw [hstep]
            exact ih known
        | false =>
            cases hparse : parse item with
            | error fault => simp [addItem, hblank, hparse, bind, Except.bind, Except.map]
            | ok asset =>
                have hstep : addItem known item =
                    .ok (if asset ∈ known then known else known ++ [asset]) := by
                  simp only [addItem, hblank, hparse]
                  rfl
                rw [hstep]
                change List.foldlM addItem _ others = _
                rw [ih]
                simp only [Bool.not_false, if_true, List.mapM_cons, hparse]
                cases (others.filter fun item => !Text.isBlankText item).mapM parse <;> rfl
  simp only [hfold, foldl_append_unknown]

/-- The assets of a text are those that are found when its items are read one after the other. -/
theorem parseUniverse_eq_foldlM (written : String) :
    parseUniverse written = (Text.split ',' written).foldlM addItem [] := by
  rw [foldlM_addItem, parseUniverse, parseItems]
  simp

end PriceBoard.Asset
