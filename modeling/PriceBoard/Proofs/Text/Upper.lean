import PriceBoard.Text.Upper

/-!
# What upper case leaves alone

No letter turns into a sign below `A` when it is put into upper case, so that commas, colons and
hyphens of the result were there before (`mem_of_mem_upperWord`).  No letter disappears, so that a
word loses nothing that its upper-case form still has (`eq_of_sublist_of_upperWord`).  And what is in
upper case stays as it is (`upper_upper`).
-/

namespace PriceBoard.Text

/-- The number of the first capital letter. -/
def firstCapital : Nat :=
  0x41

theorem le_of_mem_upperRuns {run : Nat × Nat × Nat × Int} {code : Nat}
    (hrun : run ∈ upperRunsLow ++ upperRunsHigh) (hin : inRun code run = true) :
    firstCapital ≤ (code + run.2.2.2).toNat := by
  have htables : ∀ run ∈ upperRunsLow ++ upperRunsHigh,
      (firstCapital : Int) ≤ run.1 + run.2.2.2 := by
    decide +kernel
  have hstart : run.1 ≤ code := by
    simp only [inRun, Bool.and_eq_true, decide_eq_true_eq] at hin
    exact hin.1.1
  have hshifted := htables run hrun
  omega

theorem le_of_mem_upperExpansions {code other : Nat} {codes : List Nat}
    (hentry : upperExpansions.lookup code = some codes) (hother : other ∈ codes) :
    firstCapital ≤ other := by
  have htable : ∀ entry ∈ upperExpansions, ∀ other ∈ entry.2, firstCapital ≤ other := by
    decide +kernel
  obtain ⟨before, after, hsplit, -⟩ := List.lookup_eq_some_iff.mp hentry
  have hmem : (code, codes) ∈ upperExpansions := by
    rw [hsplit]
    exact List.mem_append_right _ List.mem_cons_self
  exact htable _ hmem other hother

/-- A number below the capital letters stands for itself. -/
theorem eq_of_mem_upperCodes {code other : Nat} (hother : other ∈ upperCodes code)
    (hsmall : other < firstCapital) : other = code := by
  have hlarge : ¬ firstCapital ≤ other := Nat.not_le.mpr hsmall
  unfold upperCodes at hother
  split at hother
  · split at hother
    · rename_i hlower
      simp only [Bool.and_eq_true, decide_eq_true_eq] at hlower
      simp only [List.mem_singleton, firstCapital] at hother hlarge
      omega
    · exact List.mem_singleton.mp hother
  · split at hother
    · rename_i run hfind
      obtain rfl := List.mem_singleton.mp hother
      refine absurd (le_of_mem_upperRuns ?_ (List.find?_some hfind)) hlarge
      exact List.mem_append_left _ (List.mem_of_find?_eq_some hfind)
    · split at hother
      · rename_i run hfind
        obtain rfl := List.mem_singleton.mp hother
        refine absurd (le_of_mem_upperRuns ?_ (List.find?_some hfind)) hlarge
        exact List.mem_append_right _ (List.mem_of_find?_eq_some hfind)
      · split at hother
        · rename_i codes hentry
          exact absurd (le_of_mem_upperExpansions hentry hother) hlarge
        · exact List.mem_singleton.mp hother

/-- Whether the character is in front of the capital letters. -/
def isSign (letter : Char) : Bool :=
  0 < letter.toNat && letter.toNat < firstCapital

theorem eq_of_mem_upperLetter {letter first : Char} (hsign : isSign letter = true)
    (hletter : letter ∈ upperLetter first) : letter = first := by
  obtain ⟨code, hcode, rfl⟩ := List.mem_map.mp hletter
  simp only [isSign, Bool.and_eq_true, decide_eq_true_eq] at hsign
  obtain ⟨hpositive, hsmall⟩ := hsign
  by_cases hvalid : code.isValidChar
  · have hnumber : (Char.ofNat code).toNat = code := by
      rw [Char.ofNat, dif_pos hvalid]
      rfl
    rw [hnumber] at hsmall
    rw [eq_of_mem_upperCodes hcode hsmall]
    exact Char.ofNat_toNat first
  · -- a number of no character is replaced by that of the first one
    have hnumber : (Char.ofNat code).toNat = 0 := by
      rw [Char.ofNat, dif_neg hvalid]
      rfl
    rw [hnumber] at hpositive
    exact absurd hpositive (Nat.lt_irrefl 0)

theorem mem_of_mem_upperWord {letter : Char} {word : List Char} (hsign : isSign letter = true)
    (hletter : letter ∈ upperWord word) : letter ∈ word := by
  obtain ⟨first, hfirst, hmem⟩ := List.mem_flatMap.mp hletter
  rw [eq_of_mem_upperLetter hsign hmem]
  exact hfirst

theorem upperWord_append (first second : List Char) :
    upperWord (first ++ second) = upperWord first ++ upperWord second :=
  List.flatMap_append

/-! ## No letter disappears -/

theorem upperCodes_ne_nil (code : Nat) : upperCodes code ≠ [] := by
  have htable : ∀ entry ∈ upperExpansions, entry.2 ≠ [] := by
    decide +kernel
  unfold upperCodes
  split
  · split <;> simp
  · split
    · simp
    · split
      · simp
      · split
        · rename_i codes hentry
          obtain ⟨before, after, hsplit, -⟩ := List.lookup_eq_some_iff.mp hentry
          refine htable (code, codes) ?_
          rw [hsplit]
          exact List.mem_append_right _ List.mem_cons_self
        · simp

theorem upperLetter_ne_nil (letter : Char) : upperLetter letter ≠ [] := by
  rw [upperLetter, Ne, List.map_eq_nil_iff]
  exact upperCodes_ne_nil letter.toNat

theorem sublist_upperWord {part word : List Char} (hpart : part.Sublist word) :
    (upperWord part).Sublist (upperWord word) := by
  induction hpart with
  | slnil => exact List.Sublist.refl _
  | cons letter _ ih => exact ih.trans (List.sublist_append_right _ _)
  | cons_cons letter _ ih => exact ih.append_left _

/-- What is left of a word is all of it, if the upper-case form is. -/
theorem eq_of_sublist_of_upperWord {part word : List Char} (hpart : part.Sublist word)
    (hupper : upperWord part = upperWord word) : part = word := by
  induction hpart with
  | slnil => rfl
  | @cons part word letter hpart ih =>
      -- the upper-case form of the letter that is left out would be missing
      have hshorter := (sublist_upperWord hpart).length_le
      have hletter := List.length_pos_iff.mpr (upperLetter_ne_nil letter)
      have hlength := congrArg List.length hupper
      simp only [upperWord, List.flatMap_cons, List.length_append] at hshorter hlength
      omega
  | cons_cons letter _ ih =>
      simp only [upperWord, List.flatMap_cons] at hupper
      rw [ih (List.append_cancel_left hupper)]

/-! ## Upper case of upper case -/

/-- The numbers of the letters of a run. -/
def lettersOfRun (run : Nat × Nat × Nat × Int) : List Nat :=
  (List.range ((run.2.1 - run.1) / run.2.2.1 + 1)).map fun place => run.1 + place * run.2.2.1

/-- The numbers of the letters that have another upper-case form. -/
def smallCodes : List Nat :=
  List.range' 0x61 26 ++ (upperRunsLow ++ upperRunsHigh).flatMap lettersOfRun ++
    upperExpansions.map Prod.fst

/-- The numbers of the letters in these forms. -/
def capitalCodes : List Nat :=
  List.range' 0x41 26 ++
    (upperRunsLow ++ upperRunsHigh).flatMap (fun run =>
      (lettersOfRun run).map fun (code : Nat) => (code + run.2.2.2).toNat) ++
    upperExpansions.flatMap Prod.snd

/-- The numbers as the bits of one number, so that two lists of them can be compared at once. -/
def bitsOf (codes : List Nat) : Nat :=
  codes.foldr (fun code bits => 1 <<< code ||| bits) 0

theorem testBit_bitsOf (codes : List Nat) (code : Nat) :
    (bitsOf codes).testBit code = decide (code ∈ codes) := by
  induction codes with
  | nil => simp [bitsOf]
  | cons first others ih =>
      rw [bitsOf, List.foldr_cons, Nat.testBit_or, ← bitsOf, ih, Nat.one_shiftLeft,
        Nat.testBit_two_pow]
      simp [eq_comm]

/-- No letter of an upper-case form has another one. -/
theorem notMem_smallCodes_of_mem {code : Nat} (hcode : code ∈ capitalCodes) :
    code ∉ smallCodes := by
  have hbits : bitsOf capitalCodes &&& bitsOf smallCodes = 0 := by
    decide +kernel
  have hbit := congrArg (fun bits : Nat => bits.testBit code) hbits
  simpa [Nat.testBit_and, testBit_bitsOf, hcode] using hbit

theorem mem_lettersOfRun {run : Nat × Nat × Nat × Int} {code : Nat} (hin : inRun code run = true) :
    code ∈ lettersOfRun run := by
  obtain ⟨first, last, step, shift⟩ := run
  simp only [inRun, Bool.and_eq_true, decide_eq_true_eq, beq_iff_eq] at hin
  obtain ⟨⟨hfirst, hlast⟩, hstep⟩ := hin
  refine List.mem_map.mpr ⟨(code - first) / step, ?_, ?_⟩
  · rw [List.mem_range, Nat.lt_succ_iff]
    exact Nat.div_le_div_right (Nat.sub_le_sub_right hlast first)
  · have hplace := Nat.div_mul_cancel (Nat.dvd_of_mod_eq_zero hstep)
    simp only [hplace]
    omega

/-- The upper-case form of a letter is the letter itself, or another one, in which case the letter
is one that has another. -/
theorem upperCodes_cases (code : Nat) :
    upperCodes code = [code] ∨
      code ∈ smallCodes ∧ ∀ other ∈ upperCodes code, other ∈ capitalCodes := by
  have hrun : ∀ run ∈ upperRunsLow ++ upperRunsHigh, inRun code run = true →
      code ∈ smallCodes ∧ (code + run.2.2.2).toNat ∈ capitalCodes := by
    intro run hrun hin
    have hmem := mem_lettersOfRun hin
    constructor
    · exact List.mem_append_left _ (List.mem_append_right _ (List.mem_flatMap.mpr ⟨run, hrun, hmem⟩))
    · refine List.mem_append_left _ (List.mem_append_right _ (List.mem_flatMap.mpr ⟨run, hrun, ?_⟩))
      exact List.mem_map.mpr ⟨code, hmem, rfl⟩
  unfold upperCodes
  split
  · split
    · rename_i hlower
      simp only [Bool.and_eq_true, decide_eq_true_eq] at hlower
      right
      simp only [smallCodes, capitalCodes, List.mem_append, List.mem_range'_1, List.mem_singleton,
        forall_eq]
      exact ⟨.inl (.inl ⟨hlower.1, by omega⟩), .inl (.inl ⟨by omega, by omega⟩)⟩
    · exact .inl rfl
  · split
    · rename_i run hfind
      right
      simpa using hrun run (List.mem_append_left _ (List.mem_of_find?_eq_some hfind))
        (List.find?_some hfind)
    · split
      · rename_i run hfind
        right
        simpa using hrun run (List.mem_append_right _ (List.mem_of_find?_eq_some hfind))
          (List.find?_some hfind)
      · split
        · rename_i codes hentry
          obtain ⟨before, after, hsplit, -⟩ := List.lookup_eq_some_iff.mp hentry
          have hmem : (code, codes) ∈ upperExpansions := by
            rw [hsplit]
            exact List.mem_append_right _ List.mem_cons_self
          right
          refine ⟨List.mem_append_right _ (List.mem_map.mpr ⟨_, hmem, rfl⟩), fun other hother => ?_⟩
          exact List.mem_append_right _ (List.mem_flatMap.mpr ⟨_, hmem, hother⟩)
        · exact .inl rfl

theorem upperCodes_of_mem {code other : Nat} (hother : other ∈ upperCodes code) :
    upperCodes other = [other] := by
  rcases upperCodes_cases code with hsame | ⟨-, hcapitals⟩
  · rw [hsame] at hother
    obtain rfl := List.mem_singleton.mp hother
    exact hsame
  · rcases upperCodes_cases other with hsame | ⟨hlower, -⟩
    · exact hsame
    · exact absurd hlower (notMem_smallCodes_of_mem (hcapitals other hother))

theorem upperLetter_of_mem {letter first : Char} (hletter : letter ∈ upperLetter first) :
    upperLetter letter = [letter] := by
  obtain ⟨code, hcode, rfl⟩ := List.mem_map.mp hletter
  by_cases hvalid : code.isValidChar
  · have hnumber : (Char.ofNat code).toNat = code := by
      rw [Char.ofNat, dif_pos hvalid]
      rfl
    rw [upperLetter, hnumber, upperCodes_of_mem hcode, List.map_singleton]
  · -- a number of no character is replaced by that of the first one
    have hzero : Char.ofNat code = Char.ofNat 0 := by
      rw [Char.ofNat, dif_neg hvalid]
      rfl
    rw [hzero]
    rfl

theorem upperWord_eq_self {word : List Char}
    (hkept : ∀ letter ∈ word, upperLetter letter = [letter]) : upperWord word = word := by
  induction word with
  | nil => rfl
  | cons first others ih =>
      have hothers := ih fun letter hletter => hkept letter (List.mem_cons_of_mem _ hletter)
      rw [upperWord, List.flatMap_cons, hkept first List.mem_cons_self, ← upperWord, hothers,
        List.singleton_append]

theorem upperWord_upperWord (word : List Char) : upperWord (upperWord word) = upperWord word := by
  apply upperWord_eq_self
  intro letter hletter
  obtain ⟨first, -, hmem⟩ := List.mem_flatMap.mp hletter
  exact upperLetter_of_mem hmem

/-- What is in upper case stays as it is. -/
theorem upper_upper (text : String) : upper (upper text) = upper text := by
  rw [upper, upper, String.toList_ofList, upperWord_upperWord]

end PriceBoard.Text
