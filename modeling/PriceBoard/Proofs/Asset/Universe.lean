import PriceBoard.Proofs.Asset

/-!
# The written list of assets

A list of assets is one text.  Between its commas are items, of which the blank ones are skipped, and
every other item has to be an asset: two words, neither of them blank, with a colon between them.
`Denotes` and `IsMalformed` say so of an item, letter by letter, and nothing else can happen
(`parse_eq_ok_iff`, `parse_eq_error_iff`).  A list is refused for its first malformed item
(`exists_first_malformed`).

A text that is read gives its assets once each in the order in which they first occur.  Their written
forms are a normal form of the text: they are read as the same assets again, and so is every list
of different assets that can be written (`parseUniverse_normalForm`).

Blanks around the list belong to its first and its last item, where they do not matter
(`toOption_parseUniverse_prepend`, `toOption_parseUniverse_append`).
-/

namespace PriceBoard.Asset

variable {asset : Asset} {assets : List Asset} {written : String}
variable {item before after : List Char}

/-! ## Items -/

/-- The word holds nothing but blanks. -/
def OnlyBlanks (word : List Char) : Prop :=
  ∀ letter ∈ word, Text.isBlank letter = true

instance (word : List Char) : Decidable (OnlyBlanks word) :=
  decidable_of_iff (word.all Text.isBlank = true) List.all_eq_true

/-- The words between the commas that hold more than blanks. -/
def writtenItems (written : String) : List (List Char) :=
  (written.toList.splitOn ',').filter fun item => ¬ OnlyBlanks item

/-- The words on the two sides of the first colon are the names of the asset and the blanks around
them. -/
def Denotes (item : List Char) (asset : Asset) : Prop :=
  ∃ before after, item = before ++ ':' :: after ∧ ':' ∉ before ∧
    ¬ OnlyBlanks before ∧ ¬ OnlyBlanks after ∧
    asset = ⟨Text.strip (String.ofList before), Text.strip (String.ofList after)⟩

/-- The item has no colon, or there are only blanks on one side of the first one. -/
def IsMalformed (item : List Char) : Prop :=
  ':' ∉ item ∨ ∃ before after, item = before ++ ':' :: after ∧ ':' ∉ before ∧
    (OnlyBlanks before ∨ OnlyBlanks after)

theorem isMalformed_iff :
    IsMalformed item ↔ match Text.cutWord ':' item with
      | none => True
      | some (before, after) => OnlyBlanks before ∨ OnlyBlanks after := by
  cases hcut : Text.cutWord ':' item with
  | none => simpa [IsMalformed] using Or.inl (Text.cutWord_eq_none_iff.mp hcut)
  | some parts =>
      obtain ⟨before, after⟩ := parts
      obtain ⟨rfl, hfree⟩ := Text.eq_append_of_cutWord hcut
      constructor
      · rintro (hcolon | ⟨first, second, hitem, hfirst, hparts⟩)
        · simp at hcolon
        · obtain ⟨rfl, rfl⟩ := (Text.append_cons_inj hfree hfirst).mp hitem
          exact hparts
      · exact fun hparts => .inr ⟨before, after, rfl, hfree, hparts⟩

instance (item : List Char) : Decidable (IsMalformed item) :=
  match hcut : Text.cutWord ':' item with
  | none => .isTrue (isMalformed_iff.mpr (by rw [hcut]; trivial))
  | some (before, after) =>
    decidable_of_iff (OnlyBlanks before ∨ OnlyBlanks after) (by rw [isMalformed_iff, hcut])

theorem writtenItems_eq (written : String) :
    writtenItems written =
      (Text.splitWord ',' written.toList).filter fun item => ¬ OnlyBlanks item := by
  rw [writtenItems, Text.splitWord_eq_splitOn]

theorem isBlankText_ofList (word : List Char) :
    Text.isBlankText (String.ofList word) = decide (OnlyBlanks word) := by
  rw [Bool.eq_iff_iff, decide_eq_true_iff, Text.isBlankText, String.toList_ofList,
    List.all_eq_true, OnlyBlanks]

/-- The items are read one by one. -/
theorem parseItems_eq_mapM (written : String) :
    parseItems written = (writtenItems written).mapM fun item => parse (String.ofList item) := by
  rw [parseItems, Text.split, List.filter_map, List.mapM_map, writtenItems_eq]
  simp only [Function.comp_def, isBlankText_ofList, decide_not]

/-! ## One item -/

theorem isEmpty_trimWord {word : List Char} :
    (Text.trimWord Text.isBlank word).isEmpty = true ↔ OnlyBlanks word :=
  List.isEmpty_iff.trans Text.trimWord_eq_nil_iff

/-- Blanks around the names do not matter, and further colons belong to the symbol. -/
theorem parse_append_cons (hfree : ':' ∉ before) :
    parse (String.ofList (before ++ ':' :: after)) =
      if OnlyBlanks before ∨ OnlyBlanks after then .error ⟨String.ofList (before ++ ':' :: after)⟩
      else .ok ⟨Text.strip (String.ofList before), Text.strip (String.ofList after)⟩ := by
  have hcolon : Text.isBlank ':' = false := by decide
  have hleading : ':' ∉ Text.dropLeading Text.isBlank before :=
    fun hmem => hfree ((List.dropWhile_sublist _).subset hmem)
  rw [parse, String.toList_ofList, Text.trimWord_append_cons hcolon, Text.cutWord_append hleading]
  simp only [Text.trimWord_dropLeading, Text.trimWord_dropTrailing, Bool.or_eq_true,
    isEmpty_trimWord, Text.strip, String.toList_ofList]

theorem parse_of_colon_notMem (hfree : ':' ∉ item) :
    parse (String.ofList item) = .error ⟨String.ofList item⟩ := by
  have hnone : Text.cutWord ':' (Text.trimWord Text.isBlank item) = none :=
    Text.cutWord_eq_none_iff.mpr fun hmem => hfree (Text.mem_of_mem_trimWord hmem)
  rw [parse, String.toList_ofList, hnone]

/-- An item is read as the asset that it denotes. -/
theorem parse_eq_ok_iff : parse (String.ofList item) = .ok asset ↔ Denotes item asset := by
  constructor
  · intro hread
    by_cases hcolon : ':' ∈ item
    · obtain ⟨before, after, rfl, hfree⟩ := List.eq_append_cons_of_mem hcolon
      rw [parse_append_cons hfree] at hread
      split at hread
      · cases hread
      · rename_i hparts
        rw [not_or] at hparts
        cases hread
        exact ⟨before, after, rfl, hfree, hparts.1, hparts.2, rfl⟩
    · rw [parse_of_colon_notMem hcolon] at hread
      cases hread
  · rintro ⟨before, after, rfl, hfree, hbefore, hafter, rfl⟩
    rw [parse_append_cons hfree, if_neg (not_or.mpr ⟨hbefore, hafter⟩)]

/-- An item is refused just if it is malformed, and the message quotes all of it. -/
theorem parse_eq_error_iff {fault : Malformed} :
    parse (String.ofList item) = .error fault ↔
      IsMalformed item ∧ fault = ⟨String.ofList item⟩ := by
  constructor
  · intro hfault
    by_cases hcolon : ':' ∈ item
    · obtain ⟨before, after, rfl, hfree⟩ := List.eq_append_cons_of_mem hcolon
      rw [parse_append_cons hfree] at hfault
      split at hfault
      · cases hfault
        exact ⟨.inr ⟨before, after, rfl, hfree, ‹_›⟩, rfl⟩
      · cases hfault
    · rw [parse_of_colon_notMem hcolon] at hfault
      cases hfault
      exact ⟨.inl hcolon, rfl⟩
  · rintro ⟨hcolon | ⟨before, after, rfl, hfree, hparts⟩, rfl⟩
    · exact parse_of_colon_notMem hcolon
    · rw [parse_append_cons hfree, if_pos hparts]

/-! ## The list -/

theorem parseUniverse_eq_error_iff {fault : Malformed} :
    parseUniverse written = .error fault ↔ parseItems written = .error fault := by
  unfold parseUniverse
  cases parseItems written <;> simp [Except.map]

/-- A list is refused just if one of its items is malformed. -/
theorem exists_parseUniverse_eq_error_iff :
    (∃ fault, parseUniverse written = .error fault) ↔
      ∃ item ∈ writtenItems written, IsMalformed item := by
  simp only [parseUniverse_eq_error_iff, parseItems_eq_mapM]
  constructor
  · rintro ⟨fault, hfault⟩
    obtain ⟨before, item, after, hitems, -, hitem⟩ := mapM_eq_error_iff.mp hfault
    exact ⟨item, by simp [hitems], (parse_eq_error_iff.mp hitem).1⟩
  · rintro ⟨item, hitem, hmalformed⟩
    cases hread : (writtenItems written).mapM fun item => parse (String.ofList item) with
    | error fault => exact ⟨fault, rfl⟩
    | ok read =>
        obtain ⟨asset, hasset⟩ := exists_of_mapM_eq_ok hread item hitem
        cases hasset.symm.trans (parse_eq_error_iff.mpr ⟨hmalformed, rfl⟩)

/-- The message about a list that is refused is about its first malformed item. -/
theorem exists_first_malformed {fault : Malformed} (hparse : parseUniverse written = .error fault) :
    ∃ before item after, writtenItems written = before ++ item :: after ∧
      (∀ earlier ∈ before, ¬ IsMalformed earlier) ∧ IsMalformed item ∧
      fault.written = String.ofList item := by
  rw [parseUniverse_eq_error_iff, parseItems_eq_mapM] at hparse
  obtain ⟨before, item, after, hitems, hbefore, hitem⟩ := mapM_eq_error_iff.mp hparse
  obtain ⟨hmalformed, rfl⟩ := parse_eq_error_iff.mp hitem
  refine ⟨before, item, after, hitems, ?_, hmalformed, rfl⟩
  intro earlier hearlier hfault
  obtain ⟨asset, hasset⟩ := hbefore earlier hearlier
  cases hasset.symm.trans (parse_eq_error_iff.mpr ⟨hfault, rfl⟩)

/-- What is read are the assets that the items denote, in the order in which they first occur. -/
theorem exists_denotes_of_parseUniverse (hparse : parseUniverse written = .ok assets) :
    ∃ read, List.Forall₂ Denotes (writtenItems written) read ∧
      (∀ asset, asset ∈ assets ↔ asset ∈ read) ∧
      assets.Pairwise fun first second => read.idxOf first < read.idxOf second := by
  obtain ⟨read, hread, rfl⟩ := parseUniverse_eq_ok_iff.mp hparse
  rw [parseItems_eq_mapM] at hread
  refine ⟨read, ?_, fun asset => mem_distinct, pairwise_idxOf_distinct read⟩
  exact (forall₂_of_mapM_eq_ok hread).imp fun item asset => parse_eq_ok_iff.mp

theorem nodup_of_parseUniverse (hparse : parseUniverse written = .ok assets) : assets.Nodup := by
  obtain ⟨read, -, rfl⟩ := parseUniverse_eq_ok_iff.mp hparse
  exact nodup_distinct read

/-- Different assets are read from the join of their written forms again. -/
theorem parseUniverse_commaJoin (hnodup : assets.Nodup)
    (hwritable : ∀ asset ∈ assets, asset.Writable) :
    parseUniverse (Text.commaJoin (assets.map text)) = .ok assets :=
  parseUniverse_eq_ok_iff.mpr ⟨assets, parseItems_commaJoin hwritable, distinct_of_nodup hnodup⟩

/-- **Reading a list of assets brings it into normal form.**  A text is refused just if one of the
items between its commas is not blank and malformed.  Otherwise its assets are read, in the order in
which they first occur and once each, and every one of them can be written; if they are, the same
assets are read again.  So are any different assets that can be written. -/
theorem parseUniverse_normalForm :
    (∀ written : String,
      ((∃ fault, parseUniverse written = .error fault) ↔
        ∃ item ∈ writtenItems written, IsMalformed item) ∧
      ∀ assets, parseUniverse written = .ok assets →
        assets.Nodup ∧
        (∃ read, List.Forall₂ Denotes (writtenItems written) read ∧
          (∀ asset, asset ∈ assets ↔ asset ∈ read) ∧
          assets.Pairwise fun first second => read.idxOf first < read.idxOf second) ∧
        (∀ asset ∈ assets, asset.Writable) ∧
        parseUniverse (Text.commaJoin (assets.map text)) = .ok assets) ∧
    ∀ assets : List Asset, assets.Nodup → (∀ asset ∈ assets, asset.Writable) →
      parseUniverse (Text.commaJoin (assets.map text)) = .ok assets := by
  refine ⟨fun written => ⟨exists_parseUniverse_eq_error_iff, fun assets hparse => ?_⟩,
    fun assets hnodup hwritable => parseUniverse_commaJoin hnodup hwritable⟩
  have hnodup := nodup_of_parseUniverse hparse
  have hwritable := writable_of_parseUniverse hparse
  exact ⟨hnodup, exists_denotes_of_parseUniverse hparse, hwritable,
    parseUniverse_commaJoin hnodup hwritable⟩

/-- A list with blanks, a blank item, a symbol with a colon and an asset that is written twice, in two
ways; and one with an item of which a part is blank. -/
theorem parseUniverse_normalForm_spaced :
    let assets : List Asset := [⟨"A", "X"⟩, ⟨"B", "Y:Z"⟩]
    parseUniverse " A : X, ,B:Y:Z,A:X" = .ok assets ∧
      parseUniverse "A:X,B:Y:Z" = .ok assets ∧
      ∃ fault, parseUniverse "A:X, :X" = .error fault := by
  intro assets
  obtain ⟨hread, -⟩ := parseUniverse_normalForm
  have hspaced : parseUniverse " A : X, ,B:Y:Z,A:X" = .ok assets := by decide +kernel
  obtain ⟨-, -, -, hagain⟩ := (hread _).2 assets hspaced
  have hitem : [' ', ':', 'X'] ∈ writtenItems "A:X, :X" := by
    rw [writtenItems_eq]
    decide +kernel
  exact ⟨hspaced, hagain, (hread _).1.mpr ⟨_, hitem, by decide +kernel⟩⟩

/-! ## Blanks around the list -/

/-- All that matters of an item is what is left when it is trimmed; only a message shows more. -/
theorem toOption_addItem_congr {first second : List Char}
    (hsame : Text.trimWord Text.isBlank first = Text.trimWord Text.isBlank second)
    (known : List Asset) :
    (addItem known (String.ofList first)).toOption =
      (addItem known (String.ofList second)).toOption := by
  have hparse : (parse (String.ofList first)).toOption =
      (parse (String.ofList second)).toOption := by
    simp only [parse, String.toList_ofList, hsame]
    cases Text.cutWord ':' (Text.trimWord Text.isBlank second) with
    | none => rfl
    | some parts =>
        simp only
        split <;> rfl
  have hblank : OnlyBlanks first ↔ OnlyBlanks second := by
    rw [← isEmpty_trimWord, hsame, isEmpty_trimWord]
  simp only [addItem, isBlankText_ofList, hblank]
  split
  · rfl
  · rw [toOption_bind, toOption_bind, hparse]

theorem comma_notMem_of_isBlankText {blanks : String} (hblanks : Text.isBlankText blanks = true) :
    ',' ∉ blanks.toList := by
  intro hcomma
  have hblank : Text.isBlank ',' = true := List.all_eq_true.mp hblanks ',' hcomma
  revert hblank
  decide

/-- Nothing is read from blanks. -/
theorem parseUniverse_of_isBlankText (hblank : Text.isBlankText written = true) :
    parseUniverse written = .ok [] := by
  have hskip : addItem [] written = .ok [] := by simp [addItem, hblank]
  rw [parseUniverse_eq_foldlM, Text.split,
    Text.splitWord_of_notMem (comma_notMem_of_isBlankText hblank), List.map_cons, List.map_nil,
    String.ofList_toList, List.foldlM_cons, hskip]
  rfl

/-- Blanks in front of a list belong to its first item. -/
theorem toOption_parseUniverse_prepend {lead : String} (hlead : Text.isBlankText lead = true)
    (written : String) :
    (parseUniverse (lead ++ written)).toOption = (parseUniverse written).toOption := by
  obtain ⟨first, others, hparts, hlonger⟩ :=
    Text.exists_splitWord_prepend (comma_notMem_of_isBlankText hlead) written.toList
  have hitem := Text.trimWord_padded (List.all_eq_true.mp hlead) (List.forall_mem_nil _) first
  rw [List.append_nil] at hitem
  rw [parseUniverse_eq_foldlM, parseUniverse_eq_foldlM, Text.split, Text.split,
    String.toList_append, hparts, hlonger, List.map_cons, List.map_cons, List.foldlM_cons,
    List.foldlM_cons, toOption_bind, toOption_bind, toOption_addItem_congr hitem]

/-- Blanks behind a list belong to its last item. -/
theorem toOption_parseUniverse_append {trail : String} (htrail : Text.isBlankText trail = true)
    (written : String) :
    (parseUniverse (written ++ trail)).toOption = (parseUniverse written).toOption := by
  obtain ⟨others, last, hparts, hlonger⟩ :=
    Text.exists_splitWord_append (comma_notMem_of_isBlankText htrail) written.toList
  have hitem := Text.trimWord_padded (List.forall_mem_nil _) (List.all_eq_true.mp htrail) last
  rw [List.nil_append] at hitem
  rw [parseUniverse_eq_foldlM, parseUniverse_eq_foldlM, Text.split, Text.split,
    String.toList_append, hparts, hlonger, List.map_append, List.map_append, List.foldlM_append,
    List.foldlM_append, toOption_bind, toOption_bind]
  simp only [List.map_cons, List.map_nil, List.foldlM_cons, List.foldlM_nil, bind_pure,
    toOption_addItem_congr hitem]

end PriceBoard.Asset
