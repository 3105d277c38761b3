import Mathlib.Data.List.DropRight
import PriceBoard.Text.Blank
import PriceBoard.Text.Split

/-!
# Cutting, joining and trimming

Texts without commas are found again between the commas of their join (`split_commaJoin`), and what
has no blanks around it stays as it is when it is trimmed (`trimWord_eq_self_iff`).  Cutting and
trimming only leave letters out, so that all letters of a part were in the word before
(`sublist_trimWord`).

What is put around a word belongs to its first and its last part (`exists_splitWord_prepend`,
`exists_splitWord_append`), and if it is trimmed anyway, it makes no difference (`trimWord_padded`).
-/

namespace PriceBoard.Text

variable {separator letter : Char} {word part : List Char} {inClass : Char → Bool}

/-! ## Cutting at every separator -/

theorem splitWord_ne_nil (separator : Char) (word : List Char) : splitWord separator word ≠ [] := by
  cases word with
  | nil => simp [splitWord]
  | cons first rest =>
      unfold splitWord
      split
      · simp
      · split <;> simp

/-- Words are cut like any other lists. -/
theorem splitWord_eq_splitOn (separator : Char) (word : List Char) :
    splitWord separator word = word.splitOn separator := by
  induction word with
  | nil => rfl
  | cons first rest ih =>
      rw [splitWord, List.splitOn_cons_eq_if_modifyHead]
      by_cases hfirst : first = separator
      · simp [hfirst, ih]
      · rw [← ih]
        cases hrest : splitWord separator rest with
        | nil => exact absurd hrest (splitWord_ne_nil separator rest)
        | cons part parts => simp [hfirst]

/-- The letters of a part are those of the word, without separators. -/
theorem mem_and_ne_of_mem_splitWord (hpart : part ∈ splitWord separator word)
    (hletter : letter ∈ part) : letter ∈ word ∧ letter ≠ separator := by
  induction word generalizing part with
  | nil =>
      obtain rfl : part = [] := by simpa [splitWord] using hpart
      cases hletter
  | cons first rest ih =>
      have hlater : ∀ later ∈ splitWord separator rest, letter ∈ later →
          letter ∈ first :: rest ∧ letter ≠ separator := by
        intro later hlater hmem
        obtain ⟨hrest, hne⟩ := ih hlater hmem
        exact ⟨List.mem_cons_of_mem _ hrest, hne⟩
      rw [splitWord] at hpart
      by_cases hfirst : first = separator
      · rw [if_pos hfirst] at hpart
        rcases List.mem_cons.mp hpart with rfl | hpart
        · cases hletter
        · exact hlater part hpart hletter
      · rw [if_neg hfirst] at hpart
        cases hrest : splitWord separator rest with
        | nil => exact absurd hrest (splitWord_ne_nil separator rest)
        | cons next parts =>
            rw [hrest] at hpart hlater
            rcases List.mem_cons.mp hpart with rfl | hpart
            · -- the first part has the first letter in front of it
              rcases List.mem_cons.mp hletter with rfl | hletter
              · exact ⟨List.mem_cons_self, hfirst⟩
              · exact hlater next List.mem_cons_self hletter
            · exact hlater part (List.mem_cons_of_mem _ hpart) hletter

theorem splitWord_of_notMem (hfree : separator ∉ word) : splitWord separator word = [word] := by
  induction word with
  | nil => rfl
  | cons first rest ih =>
      rw [List.mem_cons, not_or] at hfree
      rw [splitWord, if_neg fun hfirst => hfree.1 hfirst.symm, ih hfree.2]

/-- What is put in front of a word belongs to its first part. -/
theorem exists_splitWord_prepend {lead : List Char} (hfree : separator ∉ lead) (word : List Char) :
    ∃ first others, splitWord separator word = first :: others ∧
      splitWord separator (lead ++ word) = (lead ++ first) :: others := by
  induction lead with
  | nil =>
      cases hparts : splitWord separator word with
      | nil => exact absurd hparts (splitWord_ne_nil separator word)
      | cons first others => exact ⟨first, others, rfl, hparts⟩
  | cons letter rest ih =>
      rw [List.mem_cons, not_or] at hfree
      obtain ⟨first, others, hparts, hrest⟩ := ih hfree.2
      refine ⟨first, others, hparts, ?_⟩
      rw [List.cons_append, splitWord, if_neg fun hletter => hfree.1 hletter.symm, hrest]
      rfl

/-- What is put behind a word belongs to its last part. -/
theorem exists_splitWord_append {trail : List Char} (hfree : separator ∉ trail)
    (word : List Char) :
    ∃ others last, splitWord separator word = others ++ [last] ∧
      splitWord separator (word ++ trail) = others ++ [last ++ trail] := by
  induction word with
  | nil => exact ⟨[], [], rfl, splitWord_of_notMem hfree⟩
  | cons letter rest ih =>
      obtain ⟨others, last, hparts, hlonger⟩ := ih
      rw [List.cons_append, splitWord, splitWord, hparts, hlonger]
      split
      · exact ⟨[] :: others, last, rfl, rfl⟩
      · -- the letter joins the first part, which may be the last one
        cases others with
        | nil => exact ⟨[], letter :: last, rfl, rfl⟩
        | cons first others => exact ⟨(letter :: first) :: others, last, rfl, rfl⟩

/-- A word with one separator is what stands before and after it. -/
theorem eq_append_of_splitWord {first second : List Char}
    (hparts : splitWord separator word = [first, second]) :
    word = first ++ separator :: second ∧ separator ∉ first ∧ separator ∉ second := by
  have hfree : ∀ part ∈ [first, second], separator ∉ part := by
    intro part hpart hmem
    rw [← hparts] at hpart
    exact (mem_and_ne_of_mem_splitWord hpart hmem).2 rfl
  refine ⟨?_, hfree first List.mem_cons_self, hfree second (by simp)⟩
  have hjoin : [separator].intercalate (word.splitOn separator) = word :=
    List.intercalate_splitOn separator
  rw [← splitWord_eq_splitOn, hparts] at hjoin
  simpa [List.intercalate] using hjoin.symm

/-! ## Texts with commas between them -/

theorem toList_commaJoin (texts : List String) :
    (commaJoin texts).toList = [','].intercalate (texts.map String.toList) :=
  String.toList_intercalate

/-- Texts without commas are found again between the commas. -/
theorem split_commaJoin {texts : List String} (hne : texts ≠ [])
    (hfree : ∀ text ∈ texts, ',' ∉ text.toList) : split ',' (commaJoin texts) = texts := by
  have hwords : ∀ word ∈ texts.map String.toList, ',' ∉ word := by
    intro word hword
    obtain ⟨text, htext, rfl⟩ := List.mem_map.mp hword
    exact hfree text htext
  have hsplit : splitWord ',' (commaJoin texts).toList = texts.map String.toList := by
    rw [toList_commaJoin, splitWord_eq_splitOn]
    exact List.splitOn_intercalate ',' hwords (by simpa using hne)
  rw [split, hsplit, List.map_map]
  simp

/-! ## Cutting at the first separator -/

theorem cutWord_append {before : List Char} (hfree : separator ∉ before) (after : List Char) :
    cutWord separator (before ++ separator :: after) = some (before, after) := by
  induction before with
  | nil => simp [cutWord]
  | cons first rest ih =>
      have hfirst : first ≠ separator := by
        rintro rfl
        exact hfree List.mem_cons_self
      have hrest := ih fun hmem => hfree (List.mem_cons_of_mem _ hmem)
      simp [cutWord, hfirst, hrest]

/-- What stands before and after the first separator is told by the word. -/
theorem append_cons_inj {first second third fourth : List Char} (hfirst : separator ∉ first)
    (hthird : separator ∉ third) :
    first ++ separator :: second = third ++ separator :: fourth ↔
      first = third ∧ second = fourth := by
  constructor
  · intro hsame
    have hcut := cutWord_append hfirst second
    rw [hsame, cutWord_append hthird fourth] at hcut
    cases hcut
    exact ⟨rfl, rfl⟩
  · rintro ⟨rfl, rfl⟩
    rfl

/-- The first separator is the one that is cut out. -/
theorem eq_append_of_cutWord {before after : List Char}
    (hcut : cutWord separator word = some (before, after)) :
    word = before ++ separator :: after ∧ separator ∉ before := by
  induction word generalizing before with
  | nil => cases hcut
  | cons first rest ih =>
      rw [cutWord] at hcut
      by_cases hfirst : first = separator
      · rw [if_pos hfirst] at hcut
        cases hcut
        exact ⟨by rw [hfirst]; rfl, List.not_mem_nil⟩
      · rw [if_neg hfirst] at hcut
        obtain ⟨parts, hparts, heq⟩ := Option.map_eq_some_iff.mp hcut
        cases heq
        obtain ⟨hrest, hfree⟩ := ih hparts
        refine ⟨by rw [hrest]; rfl, ?_⟩
        intro hmem
        rcases List.mem_cons.mp hmem with hsame | hmem
        · exact hfirst hsame.symm
        · exact hfree hmem

theorem cutWord_eq_none_iff : cutWord separator word = none ↔ separator ∉ word := by
  constructor
  · intro hcut hmem
    obtain ⟨before, after, rfl, hfree⟩ := List.eq_append_cons_of_mem hmem
    rw [cutWord_append hfree after] at hcut
    cases hcut
  · intro hfree
    cases hcut : cutWord separator word with
    | none => rfl
    | some parts =>
        obtain ⟨hword, -⟩ := eq_append_of_cutWord hcut
        exact absurd (by simp [hword]) hfree

/-! ## Trimming -/

theorem sublist_trimWord (inClass : Char → Bool) (word : List Char) :
    (trimWord inClass word).Sublist word := by
  have hleading : (dropLeading inClass word).Sublist word := List.dropWhile_sublist inClass
  have htrailing := (List.dropWhile_sublist inClass (l := (dropLeading inClass word).reverse)).reverse
  rw [List.reverse_reverse] at htrailing
  exact htrailing.trans hleading

theorem mem_of_mem_trimWord (hletter : letter ∈ trimWord inClass word) : letter ∈ word :=
  (sublist_trimWord inClass word).subset hletter

theorem dropWhile_eq_self_iff :
    word.dropWhile inClass = word ↔ ∀ first ∈ word.head?, inClass first = false := by
  cases word with
  | nil => simp
  | cons first rest => simp [List.dropWhile_eq_self_iff]

/-- Nothing is trimmed from a word just if its first and its last letter are not in the class. -/
theorem trimWord_eq_self_iff :
    trimWord inClass word = word ↔
      (∀ first ∈ word.head?, inClass first = false) ∧
        ∀ last ∈ word.getLast?, inClass last = false := by
  constructor
  · intro htrim
    have hleading : dropLeading inClass word = word := by
      have hback := List.dropWhile_sublist inClass (l := (dropLeading inClass word).reverse)
      have hlength : (trimWord inClass word).length ≤ (dropLeading inClass word).length := by
        simpa [trimWord, dropTrailing] using hback.length_le
      rw [htrim] at hlength
      exact (List.dropWhile_sublist inClass).eq_of_length_le hlength
    have htrailing : word.reverse.dropWhile inClass = word.reverse := by
      rw [trimWord, hleading, dropTrailing] at htrim
      rw [← List.reverse_reverse (word.reverse.dropWhile inClass), htrim]
    refine ⟨dropWhile_eq_self_iff.mp hleading, ?_⟩
    have hlast := dropWhile_eq_self_iff.mp htrailing
    rwa [List.head?_reverse] at hlast
  · rintro ⟨hfirst, hlast⟩
    have hleading : dropLeading inClass word = word := dropWhile_eq_self_iff.mpr hfirst
    have htrailing : word.reverse.dropWhile inClass = word.reverse := by
      apply dropWhile_eq_self_iff.mpr
      rwa [List.head?_reverse]
    rw [trimWord, hleading, dropTrailing, htrailing, List.reverse_reverse]

/-- What begins with a letter that is not in the class still does so when it is trimmed. -/
theorem exists_trimWord_cons {first : Char} (hfirst : inClass first = false) (rest : List Char) :
    ∃ kept, trimWord inClass (first :: rest) = first :: kept := by
  have hleading : dropLeading inClass (first :: rest) = first :: rest := by
    simp [dropLeading, hfirst]
  rw [trimWord, hleading, dropTrailing, List.reverse_cons, List.dropWhile_append]
  split
  · exact ⟨[], by simp [hfirst]⟩
  · rw [List.reverse_append]
    exact ⟨_, rfl⟩

/-- Nothing is trimmed from what stands between two trimmed words. -/
theorem trimWord_append {first second : List Char} (hfirst : trimWord inClass first = first)
    (hsecond : trimWord inClass second = second) (hfirstNe : first ≠ []) (hsecondNe : second ≠ [])
    (middle : List Char) :
    trimWord inClass (first ++ middle ++ second) = first ++ middle ++ second := by
  have hstart : first.head? = some (first.head hfirstNe) := List.head?_eq_some_head hfirstNe
  have hfinish : second.getLast? = some (second.getLast hsecondNe) :=
    List.getLast?_eq_some_getLast hsecondNe
  obtain ⟨hhead, -⟩ := trimWord_eq_self_iff.mp hfirst
  obtain ⟨-, hlast⟩ := trimWord_eq_self_iff.mp hsecond
  apply trimWord_eq_self_iff.mpr
  constructor
  · rw [List.append_assoc, List.head?_append, hstart, Option.some_or, ← hstart]
    exact hhead
  · rw [List.getLast?_append, hfinish, Option.some_or, ← hfinish]
    exact hlast

/-- Nothing is left to be trimmed from a trimmed word. -/
theorem trimWord_trimWord (inClass : Char → Bool) (word : List Char) :
    trimWord inClass (trimWord inClass word) = trimWord inClass word := by
  have hleading : dropLeading inClass (trimWord inClass word) = trimWord inClass word := by
    apply dropWhile_eq_self_iff.mpr
    intro first hfirst
    -- the first letter is that of the word without its leading letters of the class
    obtain ⟨rest, hrest⟩ := List.rdropWhile_prefix inClass (dropLeading inClass word)
    have hhead : (dropLeading inClass word).head? = some first := by
      rw [← hrest, List.head?_append]
      change (trimWord inClass word).head?.or _ = _
      rw [hfirst, Option.some_or]
    have hnot := List.head?_dropWhile_not inClass word
    rw [← dropLeading, hhead] at hnot
    exact hnot
  rw [trimWord, hleading]
  exact List.rdropWhile_idempotent inClass (dropLeading inClass word)

/-! ## Letters of the class around a word -/

theorem dropTrailing_append {trail : List Char} (htrail : ∀ letter ∈ trail, inClass letter = true)
    (word : List Char) : dropTrailing inClass (word ++ trail) = dropTrailing inClass word := by
  have hback : ∀ letter ∈ trail.reverse, inClass letter = true :=
    fun letter hletter => htrail letter (List.mem_reverse.mp hletter)
  rw [dropTrailing, List.reverse_append, List.dropWhile_append_of_pos hback, dropTrailing]

/-- Letters of the class around a word are trimmed from it. -/
theorem trimWord_padded {lead trail : List Char} (hlead : ∀ letter ∈ lead, inClass letter = true)
    (htrail : ∀ letter ∈ trail, inClass letter = true) (word : List Char) :
    trimWord inClass (lead ++ word ++ trail) = trimWord inClass word := by
  rw [trimWord, dropLeading, List.append_assoc, List.dropWhile_append_of_pos hlead,
    List.dropWhile_append]
  cases hword : (word.dropWhile inClass).isEmpty with
  | true =>
      rw [List.isEmpty_iff] at hword
      rw [if_pos rfl, List.dropWhile_eq_nil_iff.mpr htrail, trimWord, dropLeading, hword]
  | false => rw [if_neg (by simp), dropTrailing_append htrail, trimWord, dropLeading]

theorem dropWhile_append_cons {before after : List Char} (hletter : inClass letter = false) :
    (before ++ letter :: after).dropWhile inClass =
      before.dropWhile inClass ++ letter :: after := by
  induction before with
  | nil => simp [hletter]
  | cons first rest ih => cases hfirst : inClass first <;> simp [hfirst, ih]

/-- A letter that is not in the class divides what is trimmed. -/
theorem trimWord_append_cons {before after : List Char} (hletter : inClass letter = false) :
    trimWord inClass (before ++ letter :: after) =
      dropLeading inClass before ++ letter :: dropTrailing inClass after := by
  rw [trimWord, dropLeading, dropWhile_append_cons hletter, dropTrailing, List.reverse_append,
    List.reverse_cons, List.append_assoc, List.singleton_append, dropWhile_append_cons hletter]
  simp [dropLeading, dropTrailing]

/-- Nothing is left of a word just if all of it is in the class. -/
theorem trimWord_eq_nil_iff :
    trimWord inClass word = [] ↔ ∀ letter ∈ word, inClass letter = true := by
  constructor
  · intro htrim letter hletter
    by_contra hclass
    obtain ⟨before, after, rfl⟩ := List.append_of_mem hletter
    rw [trimWord_append_cons (by simpa using hclass)] at htrim
    simp at htrim
  · intro hclass
    have hpadded := trimWord_padded hclass (List.forall_mem_nil _) []
    rwa [List.append_nil, List.append_nil] at hpadded

theorem trimWord_dropLeading (inClass : Char → Bool) (word : List Char) :
    trimWord inClass (dropLeading inClass word) = trimWord inClass word := by
  rw [trimWord, dropLeading, dropLeading, List.dropWhile_idempotent, trimWord, dropLeading]

theorem trimWord_dropTrailing (inClass : Char → Bool) (word : List Char) :
    trimWord inClass (dropTrailing inClass word) = trimWord inClass word := by
  have hdropped : ∀ letter ∈ (word.reverse.takeWhile inClass).reverse, inClass letter = true :=
    fun letter hletter => List.mem_takeWhile_imp (List.mem_reverse.mp hletter)
  have hword : dropTrailing inClass word ++ (word.reverse.takeWhile inClass).reverse = word := by
    rw [dropTrailing, ← List.reverse_append, List.takeWhile_append_dropWhile, List.reverse_reverse]
  have hpadded := trimWord_padded (List.forall_mem_nil _) hdropped (dropTrailing inClass word)
  rw [List.nil_append, hword] at hpadded
  exact hpadded.symm

end PriceBoard.Text
