import PriceBoard.Proofs.Entries
import PriceBoard.Proofs.Json.Literal

/-!
# Documents as they are written

A `Script` is a document letter by letter: which blanks there are, which letters of a text are
escaped, in which order the fields come and which of them come twice.  What it holds, its `content`,
can be told without reading it, and `decodeExact_document` says that the decoder finds just this.

## Strategy

The decoder reads values, items and members by recursion on a bound.  Scripts are built in the same
three kinds, and one induction over them shows that each reader takes its own letters and leaves the
rest (`value_script`, `items_script`, `members_script`).  What follows a value never goes on with a
letter of numbers, so that numbers end where they are meant to.
-/

namespace PriceBoard.Json

/-! ## Gaps -/

/-- A blank between the parts of a document. -/
inductive Blank where
  | space
  | tab
  | newline
  | carriageReturn

def Blank.letter : Blank → Char
  | space => ' '
  | tab => '\t'
  | newline => '\n'
  | carriageReturn => '\r'

/-- The blanks between two parts of a document. -/
abbrev Gap : Type :=
  List Blank

def Gap.letters (gap : Gap) : List Char :=
  gap.map Blank.letter

/-- A text that does not go on with a blank. -/
def NoGap (rest : List Letter) : Prop :=
  ∀ letter, rest.head? = some letter → isGap letter = false

theorem skipGaps_gap (gap : Gap) (position : ℕ) {rest : List Letter} (hrest : NoGap rest) :
    skipGaps position (gap.letters.map .character ++ rest) =
      (position + gap.letters.length, rest) := by
  induction gap generalizing position with
  | nil =>
      cases rest with
      | nil => rfl
      | cons letter others => simp [Gap.letters, skipGaps, hrest letter rfl]
  | cons blank others ih =>
      have hblank : isGap (.character blank.letter) = true := by cases blank <;> rfl
      have hothers := ih (position + 1)
      simp only [Gap.letters, List.map_cons, List.cons_append, skipGaps, hblank, if_true,
        List.length_cons] at hothers ⊢
      rw [hothers]
      congr 1
      omega

/-! ## Texts -/

/-- Whether the letter can stand in a text as it is. -/
def isUnescaped (letter : Char) : Bool :=
  0x20 ≤ letter.toNat && letter != '"' && letter != '\\'

/-- A piece of a text: a letter as it stands, a letter after a backslash, or a letter by its
number. -/
inductive Piece where
  | plain (letter : Char) (hplain : isUnescaped letter = true)
  | escape (mark meant : Char) (hmeant : escaped? mark = some meant)
  | unicode (a b c d : Char) (code : ℕ)
      (hcode : hexCode? (.character a) (.character b) (.character c) (.character d) = some code)

def Piece.letters : Piece → List Char
  | plain letter _ => [letter]
  | escape mark _ _ => ['\\', mark]
  | unicode a b c d _ _ => ['\\', 'u', a, b, c, d]

/-- The letters that the pieces stand for: two halves of a pair in a row are one letter. -/
def lettersOf : List Piece → List Letter
  | [] => []
  | .plain letter _ :: others => .character letter :: lettersOf others
  | .escape _ meant _ :: others => .character meant :: lettersOf others
  | .unicode _ _ _ _ high _ :: .unicode a b c d low hlow :: others =>
    if Text.isHighHalf high && Text.isLowHalf low then
      .character (Text.pairLetter high low) :: lettersOf others
    else .ofCode high :: lettersOf (.unicode a b c d low hlow :: others)
  | .unicode _ _ _ _ code _ :: others => .ofCode code :: lettersOf others

/-- A text between its marks. -/
abbrev Quoted : Type :=
  List Piece

def Quoted.letters (text : Quoted) : List Char :=
  '"' :: (text.flatMap Piece.letters ++ ['"'])

def Quoted.content (text : Quoted) : Spelling :=
  ⟨lettersOf text⟩

/-- A text in which nothing is escaped. -/
def Quoted.ofPlain (text : String) (hplain : text.toList.all isUnescaped = true) : Quoted :=
  text.toList.pmap Piece.plain (List.all_eq_true.mp hplain)

theorem Quoted.content_ofPlain (text : String) (hplain : text.toList.all isUnescaped = true) :
    (ofPlain text hplain).content = .ofText text := by
  have hword : ∀ (word : List Char) (hword : ∀ letter ∈ word, isUnescaped letter = true),
      lettersOf (word.pmap Piece.plain hword) = word.map .character := by
    intro word
    induction word with
    | nil => exact fun _ => rfl
    | cons letter others ih =>
        intro hword
        rw [List.pmap_cons, lettersOf, ih, List.map_cons]
  rw [content, ofPlain, hword, Spelling.ofText]

/-- Behind the pieces of a text there is its closing mark at least. -/
theorem exists_cons_pieces (pieces : List Piece) (rest : List Letter) :
    ∃ next tail, (pieces.flatMap Piece.letters).map Letter.character ++ .character '"' :: rest =
      next :: tail := by
  cases (pieces.flatMap Piece.letters).map Letter.character with
  | nil => exact ⟨_, _, rfl⟩
  | cons next tail => exact ⟨_, _, rfl⟩

/-- Only a letter by its number starts with a backslash and a `u`. -/
theorem exists_unicode_of_front {pieces : List Piece} {rest more : List Letter}
    (hfront : (pieces.flatMap Piece.letters).map Letter.character ++ .character '"' :: rest =
      .character '\\' :: .character 'u' :: more) :
    ∃ a b c d code hcode others, pieces = .unicode a b c d code hcode :: others := by
  cases pieces with
  | nil => simp at hfront
  | cons piece others =>
      cases piece with
      | plain letter hplain =>
          have hletter : letter = '\\' := by simpa [Piece.letters] using (List.cons.inj hfront).1
          rw [hletter] at hplain
          cases hplain
      | escape mark meant hmeant =>
          have hmark : mark = 'u' := by
            simpa [Piece.letters] using (List.cons.inj (List.cons.inj hfront).2).1
          rw [hmark] at hmeant
          cases hmeant
      | unicode a b c d code hcode => exact ⟨a, b, c, d, code, hcode, others, rfl⟩

theorem textTail_pieces (start position : ℕ) (found : List Letter) (pieces : List Piece)
    (rest : List Letter) :
    textTail start position found
        ((pieces.flatMap Piece.letters).map .character ++ .character '"' :: rest) =
      .ok (⟨found.reverse ++ lettersOf pieces⟩,
        position + (pieces.flatMap Piece.letters).length + 1, rest) := by
  fun_induction lettersOf pieces generalizing position found with
  | case1 => simp [textTail]
  | case2 letter hplain others ih =>
      obtain ⟨⟨hlow, hquote⟩, hslash⟩ : (0x20 ≤ letter.toNat ∧ letter ≠ '"') ∧ letter ≠ '\\' := by
        simpa [isUnescaped] using hplain
      have hplain : isPlainLetter (.character letter) = true := by
        simpa [isPlainLetter] using hlow
      simp only [List.flatMap_cons, Piece.letters, List.cons_append, List.nil_append, List.map_cons]
      rw [textTail]
      · rw [if_pos hplain, ih]
        simp
        omega
      all_goals simp [hquote, hslash]
  | case3 mark meant hmeant others ih =>
      have hmark : mark ≠ 'u' := by
        rintro rfl
        cases hmeant
      have hread : (Letter.character mark).character?.bind escaped? = some meant := hmeant
      simp only [List.flatMap_cons, Piece.letters, List.cons_append, List.nil_append, List.map_cons]
      rw [textTail]
      · simp only [hread]
        rw [ih]
        simp
        omega
      all_goals simp [hmark]
  | case4 a b c d high hhigh e f g h low hlow others hpair ih =>
      obtain ⟨next, tail, htail⟩ := exists_cons_pieces others rest
      have hhalves : Text.isHighHalf high = true ∧ Text.isLowHalf low = true := by
        simpa using hpair
      rw [htail] at ih
      simp only [List.flatMap_cons, Piece.letters, List.cons_append, List.nil_append,
        List.map_cons, htail]
      rw [textTail]
      simp only [hhigh, hlow, hhalves, if_true, ih]
      simp
      omega
  | case5 a b c d high hhigh e f g h low hlow others hpair ih =>
      obtain ⟨next, tail, htail⟩ := exists_cons_pieces others rest
      simp only [List.flatMap_cons, Piece.letters, List.cons_append, List.nil_append,
        List.map_cons, htail] at ih ⊢
      rw [textTail]
      simp only [hhigh, hlow]
      have hread : textTail start (position + 6) (.ofCode high :: found)
          (.character '\\' :: .character 'u' :: .character e :: .character f :: .character g ::
            .character h :: next :: tail) = _ := ih (position + 6) (.ofCode high :: found)
      cases hfirst : Text.isHighHalf high with
      | false =>
          simp only [Bool.false_eq_true, if_false, hread]
          simp
          omega
      | true =>
          have hsecond : Text.isLowHalf low = false := by simpa [hfirst] using hpair
          simp only [hsecond, Bool.false_eq_true, if_true, if_false, hread]
          simp
          omega
  | case6 a b c d code hcode others hother ih =>
      obtain ⟨next, tail, htail⟩ := exists_cons_pieces others rest
      rw [htail] at ih
      simp only [List.flatMap_cons, Piece.letters, List.cons_append, List.nil_append,
        List.map_cons, htail]
      rw [textTail]
      · simp only [hcode, ih]
        simp
        omega
      · intro e f g h last more hnext hmore
        obtain ⟨e', f', g', h', low, hlow, behind, hpieces⟩ :=
          exists_unicode_of_front (htail.trans (by rw [hnext, hmore]))
        exact hother _ _ _ _ _ _ _ hpieces

theorem textTail_quoted (text : Quoted) (position : ℕ) (rest : List Letter) :
    textTail position (position + 1) []
        ((text.flatMap Piece.letters).map .character ++ .character '"' :: rest) =
      .ok (text.content, position + text.letters.length, rest) := by
  rw [textTail_pieces]
  simp [Quoted.content, Quoted.letters]
  omega

/-! ## Words -/

/-- A word with a fixed meaning. -/
inductive Word where
  | null
  | true
  | false
  | nan
  | infinity
  | minusInfinity

def Word.letters : Word → List Char
  | null => ['n', 'u', 'l', 'l']
  | true => ['t', 'r', 'u', 'e']
  | false => ['f', 'a', 'l', 's', 'e']
  | nan => ['N', 'a', 'N']
  | infinity => ['I', 'n', 'f', 'i', 'n', 'i', 't', 'y']
  | minusInfinity => ['-', 'I', 'n', 'f', 'i', 'n', 'i', 't', 'y']

def Word.content : Word → Json
  | null => .null
  | true => .bool Bool.true
  | false => .bool Bool.false
  | nan => .double Double.nan
  | infinity => .double (Double.infinity Bool.false)
  | minusInfinity => .double (Double.infinity Bool.true)

theorem scalar_word (word : Word) (position : ℕ) (rest : List Letter) :
    scalar readExact position (word.letters.map .character ++ rest) =
      .ok (word.content, position + word.letters.length, rest) := by
  cases word <;> rfl

/-- No word with a fixed meaning starts like a number. -/
theorem scalar_literal {literal : Literal} (hreadable : literal.Readable) (position : ℕ)
    {rest : List Letter} (hrest : EndsNumber rest) :
    scalar readExact position (literal.letters.map .character ++ rest) =
      .ok (literal.content, position + literal.letters.length, rest) := by
  have hnone : (namedValues.find? fun entry =>
      startsWith entry.1 (literal.letters.map .character ++ rest)) = none := by
    have hletters : ∀ digit : Fin 10, digitChar digit ≠ 'n' ∧ digitChar digit ≠ 't' ∧
        digitChar digit ≠ 'f' ∧ digitChar digit ≠ 'N' ∧ digitChar digit ≠ 'I' ∧
          digitChar digit ≠ '-' := by
      decide
    obtain ⟨hn, ht, hf, hN, hI, hminus⟩ := hletters literal.first
    -- a minus sign is followed by a digit, and without it the first letter is a digit
    cases hsign : literal.negative <;>
      simp [namedValues, startsWith, Literal.letters, Literal.signLetters, Literal.unsignedLetters,
        Literal.whole, List.isPrefixOf, hsign, hn.symm, ht.symm, hf.symm, hN.symm, hI.symm,
        hminus.symm]
  unfold scalar
  rw [hnone]
  exact number_literal hreadable position hrest

/-! ## Scripts -/

mutual

/-- A value, letter by letter. -/
inductive Script where
  | word (word : Word)
  | number (literal : Literal) (hreadable : literal.Readable)
  | text (text : Quoted)
  | emptyArray (gap : Gap)
  | array (gap : Gap) (items : Items)
  | emptyObject (gap : Gap)
  | object (gap : Gap) (members : Members)

/-- The items of an array, with the blanks behind them. -/
inductive Items where
  | last (item : Script) (gap : Gap)
  | cons (item : Script) (gap : Gap) (afterComma : Gap) (others : Items)

/-- The fields of an object, with the blanks behind them. -/
inductive Members where
  | last (name : Quoted) (beforeColon afterColon : Gap) (value : Script) (gap : Gap)
  | cons (name : Quoted) (beforeColon afterColon : Gap) (value : Script) (gap : Gap)
      (afterComma : Gap) (others : Members)

end

mutual

def Script.letters : Script → List Char
  | .word word => word.letters
  | .number literal _ => literal.letters
  | .text text => text.letters
  | .emptyArray gap => '[' :: (gap.letters ++ [']'])
  | .array gap items => '[' :: (gap.letters ++ (items.letters ++ [']']))
  | .emptyObject gap => '\x7b' :: (gap.letters ++ ['\x7d'])
  | .object gap members => '\x7b' :: (gap.letters ++ (members.letters ++ ['\x7d']))

def Items.letters : Items → List Char
  | .last item gap => item.letters ++ gap.letters
  | .cons item gap afterComma others =>
    item.letters ++ (gap.letters ++ ',' :: (afterComma.letters ++ others.letters))

def Members.letters : Members → List Char
  | .last name beforeColon afterColon value gap =>
    name.letters ++ (beforeColon.letters ++ ':' :: (afterColon.letters ++
      (value.letters ++ gap.letters)))
  | .cons name beforeColon afterColon value gap afterComma others =>
    name.letters ++ (beforeColon.letters ++ ':' :: (afterColon.letters ++
      (value.letters ++ (gap.letters ++ ',' :: (afterComma.letters ++ others.letters)))))

end

mutual

/-- What the value holds; of two fields with one name the later one counts. -/
def Script.content : Script → Json
  | .word word => word.content
  | .number literal _ => literal.content
  | .text text => .string text.content
  | .emptyArray _ => .array []
  | .array _ items => .array items.contents
  | .emptyObject _ => .object []
  | .object _ members =>
    .object (members.contents.foldl (fun fields entry => setEntry entry.1 entry.2 fields) [])

def Items.contents : Items → List Json
  | .last item _ => [item.content]
  | .cons item _ _ others => item.content :: others.contents

/-- The fields in their order, also those that are set again. -/
def Members.contents : Members → List (Spelling × Json)
  | .last name _ _ value _ => [(name.content, value.content)]
  | .cons name _ _ value _ _ others => (name.content, value.content) :: others.contents

end

mutual

/-- How deep arrays and objects are nested. -/
def Script.depth : Script → ℕ
  | .word _ | .number _ _ | .text _ => 0
  | .emptyArray _ | .emptyObject _ => 1
  | .array _ items => items.depth + 1
  | .object _ members => members.depth + 1

def Items.depth : Items → ℕ
  | .last item _ => item.depth
  | .cons item _ _ others => max item.depth others.depth

def Members.depth : Members → ℕ
  | .last _ _ _ value _ => value.depth
  | .cons _ _ _ value _ _ others => max value.depth others.depth

end

/-! ## Fronts -/

/-- What may stand behind a value: the end, or something with which neither a number nor a gap goes
on. -/
theorem endsNumber_gap (gap : Gap) {rest : List Letter} (hrest : EndsNumber rest) :
    EndsNumber (gap.letters.map .character ++ rest) := by
  cases gap with
  | nil => exact hrest
  | cons blank others =>
      intro letter hletter
      have hblank : isNumberLetter blank.letter = false := by cases blank <;> decide
      cases hletter
      exact hblank

/-- The first letters of values. -/
def firstLetters : List Char :=
  ['"', '[', '\x7b', 'n', 't', 'f', 'N', 'I', '-', '0', '1', '2', '3', '4', '5', '6', '7', '8', '9']

theorem exists_first_letter (script : Script) :
    ∃ first others, script.letters = first :: others ∧ first ∈ firstLetters := by
  cases script with
  | word word => cases word <;> exact ⟨_, _, rfl, by decide⟩
  | number literal hreadable =>
      have hdigit : ∀ digit : Fin 10, digitChar digit ∈ firstLetters := by decide
      cases hsign : literal.negative with
      | true =>
          refine ⟨'-', literal.unsignedLetters, ?_, by decide⟩
          simp [Script.letters, Literal.letters, Literal.signLetters, hsign]
      | false =>
          refine ⟨digitChar literal.first, literal.others.map digitChar ++
            (literal.fractionLetters ++ literal.exponentLetters), ?_, hdigit _⟩
          simp [Script.letters, Literal.letters, Literal.signLetters, hsign,
            Literal.unsignedLetters, Literal.whole]
  | text text => exact ⟨_, _, rfl, by decide⟩
  | emptyArray gap => exact ⟨_, _, rfl, by decide⟩
  | array gap items => exact ⟨_, _, rfl, by decide⟩
  | emptyObject gap => exact ⟨_, _, rfl, by decide⟩
  | object gap members => exact ⟨_, _, rfl, by decide⟩

theorem noGap_cons (letter : Char) (rest : List Letter)
    (hletter : isGap (.character letter) = false) : NoGap (.character letter :: rest) := by
  intro first hfirst
  cases hfirst
  exact hletter

theorem endsNumber_cons (letter : Char) (rest : List Letter)
    (hletter : isNumberLetter letter = false) : EndsNumber (.character letter :: rest) := by
  intro first hfirst
  cases hfirst
  exact hletter

theorem exists_first_item (items : Items) :
    ∃ first others, items.letters = first :: others ∧ first ∈ firstLetters := by
  cases items with
  | last item gap =>
      obtain ⟨first, others, hletters, hfirst⟩ := exists_first_letter item
      exact ⟨first, others ++ gap.letters, by rw [Items.letters, hletters]; rfl, hfirst⟩
  | cons item gap afterComma behind =>
      obtain ⟨first, others, hletters, hfirst⟩ := exists_first_letter item
      refine ⟨first, others ++ (gap.letters ++ ',' :: (afterComma.letters ++ behind.letters)), ?_,
        hfirst⟩
      rw [Items.letters, hletters]
      rfl

theorem noGap_of_first {first : Char} (rest : List Letter) (hfirst : first ∈ firstLetters) :
    NoGap (.character first :: rest) := by
  have hgap : ∀ letter ∈ firstLetters, isGap (.character letter) = false :=
    List.forall_iff_forall_mem.mp (by decide)
  exact noGap_cons first rest (hgap first hfirst)

theorem noGap_script (script : Script) (rest : List Letter) :
    NoGap (script.letters.map .character ++ rest) := by
  obtain ⟨first, others, hletters, hfirst⟩ := exists_first_letter script
  rw [hletters]
  exact noGap_of_first _ hfirst

theorem noGap_items (items : Items) (rest : List Letter) :
    NoGap (items.letters.map .character ++ rest) := by
  obtain ⟨first, others, hletters, hfirst⟩ := exists_first_item items
  rw [hletters]
  exact noGap_of_first _ hfirst

theorem noGap_members (members : Members) (rest : List Letter) :
    NoGap (members.letters.map .character ++ rest) := by
  cases members <;> exact noGap_cons '"' _ rfl

/-! ## Values -/

theorem value_scalar {bound depth position : ℕ} {word : List Letter}
    (hword : ∀ letter rest, word = .character letter :: rest → letter ≠ '"' ∧ letter ≠ '[' ∧
      letter ≠ '\x7b') :
    value readExact (bound + 1) depth position word = scalar readExact position word := by
  rw [value]
  · intro rest hrest
    exact (hword _ _ hrest).1 rfl
  · intro rest hrest
    exact (hword _ _ hrest).2.1 rfl
  · intro rest hrest
    exact (hword _ _ hrest).2.2 rfl

/-- The reader of fields up to the value of the first one. -/
theorem members_name {bound depth position : ℕ} {found : Fields} (name : Quoted)
    (beforeColon afterColon : Gap) {word : List Letter} (hword : NoGap word) :
    members readExact (bound + 1) depth position found
        (name.letters.map .character ++ (beforeColon.letters.map .character ++
          .character ':' :: (afterColon.letters.map .character ++ word))) =
      match value readExact bound depth (position + name.letters.length +
          beforeColon.letters.length + 1 + afterColon.letters.length) word with
      | .error fault => .error fault
      | .ok (content, position, rest) =>
        match skipGaps position rest with
        | (position, .character '\x7d' :: rest) =>
          .ok (.object (setEntry name.content content found), position + 1, rest)
        | (position, .character ',' :: rest) =>
          let (position, rest) := skipGaps (position + 1) rest
          members readExact bound depth position (setEntry name.content content found) rest
        | (position, _) => malformed .commaExpected position := by
  have hname := textTail_quoted name position (beforeColon.letters.map .character ++
    .character ':' :: (afterColon.letters.map .character ++ word))
  have hcolon := skipGaps_gap beforeColon (position + name.letters.length)
    (noGap_cons ':' (afterColon.letters.map .character ++ word) rfl)
  have hafter := skipGaps_gap afterColon
    (position + name.letters.length + beforeColon.letters.length + 1) hword
  have hletters : name.letters.map Letter.character = .character '"' ::
      ((name.flatMap Piece.letters).map .character ++ [.character '"']) := by
    simp [Quoted.letters]
  rw [hletters]
  simp only [List.cons_append, List.append_assoc, List.nil_append]
  rw [members]
  simp only [hname, hcolon]
  generalize skipGaps _ (afterColon.letters.map .character ++ word) = behind at hafter ⊢
  subst hafter
  rfl

/-- An array with items: after the gap there is an item, and not the end. -/
theorem value_array {bound depth position : ℕ} (gap : Gap) (script : Items) {rest : List Letter} :
    value readExact (bound + 1) (depth + 1) position (.character '[' ::
        (gap.letters.map .character ++ (script.letters.map .character ++ rest))) =
      items readExact bound depth (position + 1 + gap.letters.length) []
        (script.letters.map .character ++ rest) := by
  have hgap := skipGaps_gap gap (position + 1) (noGap_items script rest)
  have hclosing : ∀ letter ∈ firstLetters, letter ≠ ']' :=
    List.forall_iff_forall_mem.mp (by decide)
  obtain ⟨first, others, hletters, hfirst⟩ := exists_first_item script
  rw [value]
  simp only [hgap]
  rw [hletters]
  split
  · rename_i hsplit
    exact absurd (Letter.character.inj (List.cons.inj (Prod.mk.inj hsplit).2).1)
      (hclosing first hfirst)
  · rename_i hsplit
    obtain ⟨rfl, rfl⟩ := Prod.mk.inj hsplit
    rfl

theorem value_object {bound depth position : ℕ} (gap : Gap) (script : Members)
    {rest : List Letter} :
    value readExact (bound + 1) (depth + 1) position (.character '\x7b' ::
        (gap.letters.map .character ++ (script.letters.map .character ++ rest))) =
      members readExact bound depth (position + 1 + gap.letters.length) []
        (script.letters.map .character ++ rest) := by
  have hgap := skipGaps_gap gap (position + 1) (noGap_members script rest)
  obtain ⟨others, hletters⟩ : ∃ others, script.letters = '"' :: others := by
    cases script <;> exact ⟨_, rfl⟩
  rw [value]
  simp only [hgap]
  rw [hletters]
  rfl

mutual

theorem value_script (script : Script) (bound depth position : ℕ) (rest : List Letter)
    (hbound : 2 * script.letters.length ≤ bound) (hdepth : script.depth ≤ depth)
    (hrest : EndsNumber rest) :
    value readExact bound depth position (script.letters.map .character ++ rest) =
      .ok (script.content, position + script.letters.length, rest) := by
  obtain ⟨first, following, hletters, hfirst⟩ := exists_first_letter script
  obtain ⟨bound, rfl⟩ : ∃ smaller, bound = smaller + 1 := by
    rw [hletters, List.length_cons] at hbound
    exact ⟨bound - 1, by omega⟩
  cases script with
  | word word =>
      have hscalar : value readExact (bound + 1) depth position
          (word.letters.map .character ++ rest) =
            scalar readExact position (word.letters.map .character ++ rest) := by
        cases word <;> rfl
      exact hscalar.trans (scalar_word word position rest)
  | number literal hreadable =>
      have hscalar : value readExact (bound + 1) depth position
          (literal.letters.map .character ++ rest) =
            scalar readExact position (literal.letters.map .character ++ rest) := by
        refine value_scalar fun letter rest hword => ?_
        have halphabet : ∀ letter ∈ numberAlphabet, letter ≠ '"' ∧ letter ≠ '[' ∧
            letter ≠ '\x7b' :=
          List.forall_iff_forall_mem.mp (by decide)
        have hsame : first = letter := by
          simp only [Script.letters] at hletters
          rw [hletters] at hword
          simpa using (List.cons.inj hword).1
        refine halphabet letter (literal.mem_numberAlphabet ?_)
        simp only [Script.letters] at hletters
        rw [hletters, hsame]
        exact List.mem_cons_self
      exact hscalar.trans (scalar_literal hreadable position hrest)
  | text text =>
      have htail := textTail_quoted text position rest
      simp only [Script.letters, Quoted.letters, List.map_cons, List.map_append, List.cons_append,
        List.append_assoc, List.map_nil, List.nil_append] at htail ⊢
      rw [value, htail]
      rfl
  | emptyArray gap =>
      obtain ⟨depth, rfl⟩ : ∃ smaller, depth = smaller + 1 := ⟨depth - 1, by
        simp only [Script.depth] at hdepth
        omega⟩
      have hgap := skipGaps_gap gap (position + 1)
        (noGap_cons ']' rest rfl)
      simp only [Script.letters, List.map_cons, List.map_append, List.map_nil, List.cons_append,
        List.append_assoc, List.nil_append]
      rw [value]
      simp only [hgap, Script.content]
      simp
      omega
  | array gap script =>
      simp only [Script.depth] at hdepth
      obtain ⟨depth, rfl⟩ : ∃ smaller, depth = smaller + 1 := ⟨depth - 1, by omega⟩
      simp only [Script.letters, List.length_cons, List.length_append, List.length_nil] at hbound ⊢
      have hitems := items_script script bound depth (position + 1 + gap.letters.length) [] rest
        (by omega) (by omega)
      simp only [List.map_cons, List.map_append, List.map_nil, List.cons_append, List.append_assoc,
        List.nil_append]
      rw [value_array, hitems, Script.content]
      simp
      omega
  | emptyObject gap =>
      obtain ⟨depth, rfl⟩ : ∃ smaller, depth = smaller + 1 := ⟨depth - 1, by
        simp only [Script.depth] at hdepth
        omega⟩
      have hgap := skipGaps_gap gap (position + 1)
        (noGap_cons '\x7d' rest rfl)
      simp only [Script.letters, List.map_cons, List.map_append, List.map_nil, List.cons_append,
        List.append_assoc, List.nil_append]
      rw [value]
      simp only [hgap, Script.content]
      simp
      omega
  | object gap script =>
      simp only [Script.depth] at hdepth
      obtain ⟨depth, rfl⟩ : ∃ smaller, depth = smaller + 1 := ⟨depth - 1, by omega⟩
      simp only [Script.letters, List.length_cons, List.length_append, List.length_nil] at hbound ⊢
      have hmembers := members_script script bound depth (position + 1 + gap.letters.length) [] rest
        (by omega) (by omega)
      simp only [List.map_cons, List.map_append, List.map_nil, List.cons_append, List.append_assoc,
        List.nil_append]
      rw [value_object, hmembers, Script.content]
      simp
      omega

theorem items_script (script : Items) (bound depth position : ℕ) (found : List Json)
    (rest : List Letter) (hbound : 2 * script.letters.length + 1 ≤ bound)
    (hdepth : script.depth ≤ depth) :
    items readExact bound depth position found
        (script.letters.map .character ++ .character ']' :: rest) =
      .ok (.array (found.reverse ++ script.contents), position + script.letters.length + 1,
        rest) := by
  obtain ⟨bound, rfl⟩ : ∃ smaller, bound = smaller + 1 := ⟨bound - 1, by omega⟩
  cases script with
  | last item gap =>
      simp only [Items.letters, List.length_append] at hbound ⊢
      simp only [Items.depth] at hdepth
      have hitem := value_script item bound depth position _ (by omega) hdepth
        (endsNumber_gap gap (endsNumber_cons ']' rest (by decide)))
      have hgap := skipGaps_gap gap (position + item.letters.length)
        (noGap_cons ']' rest rfl)
      rw [items]
      simp only [List.map_append, List.append_assoc, hitem, hgap, Items.contents]
      simp
      omega
  | cons item gap afterComma others =>
      simp only [Items.letters, List.length_append, List.length_cons] at hbound ⊢
      simp only [Items.depth, max_le_iff] at hdepth
      let behind := afterComma.letters.map Letter.character ++
        (others.letters.map .character ++ .character ']' :: rest)
      have hitem := value_script item bound depth position _ (by omega) hdepth.1
        (endsNumber_gap gap (endsNumber_cons ',' behind (by decide)))
      have hgap := skipGaps_gap gap (position + item.letters.length)
        (noGap_cons ',' behind rfl)
      have hafter := skipGaps_gap afterComma
        (position + item.letters.length + gap.letters.length + 1)
        (noGap_items others (.character ']' :: rest))
      have hothers := items_script others bound depth (position + item.letters.length +
        gap.letters.length + 1 + afterComma.letters.length) (item.content :: found) rest
        (by omega) hdepth.2
      rw [items]
      simp only [List.map_append, List.map_cons, List.append_assoc, List.cons_append, hitem, hgap,
        hafter, hothers, behind, Items.contents]
      simp
      omega

theorem members_script (script : Members) (bound depth position : ℕ) (found : Fields)
    (rest : List Letter) (hbound : 2 * script.letters.length + 1 ≤ bound)
    (hdepth : script.depth ≤ depth) :
    members readExact bound depth position found
        (script.letters.map .character ++ .character '\x7d' :: rest) =
      .ok (.object (script.contents.foldl (fun fields entry => setEntry entry.1 entry.2 fields)
        found), position + script.letters.length + 1, rest) := by
  obtain ⟨bound, rfl⟩ : ∃ smaller, bound = smaller + 1 := ⟨bound - 1, by omega⟩
  cases script with
  | last name beforeColon afterColon content gap =>
      simp only [Members.letters, List.length_append, List.length_cons] at hbound ⊢
      simp only [Members.depth] at hdepth
      let start := position + name.letters.length + beforeColon.letters.length + 1 +
        afterColon.letters.length
      have hcontent := value_script content bound depth start _ (by omega) hdepth
        (endsNumber_gap gap (endsNumber_cons '\x7d' rest (by decide)))
      have hgap := skipGaps_gap gap (start + content.letters.length)
        (noGap_cons '\x7d' rest rfl)
      simp only [List.map_append, List.map_cons, List.append_assoc, List.cons_append]
      rw [members_name name beforeColon afterColon (noGap_script content _)]
      simp only [hcontent, hgap, start, Members.contents]
      simp
      omega
  | cons name beforeColon afterColon content gap afterComma others =>
      simp only [Members.letters, List.length_append, List.length_cons] at hbound ⊢
      simp only [Members.depth, max_le_iff] at hdepth
      let start := position + name.letters.length + beforeColon.letters.length + 1 +
        afterColon.letters.length
      let behind := afterComma.letters.map Letter.character ++
        (others.letters.map .character ++ .character '\x7d' :: rest)
      have hcontent := value_script content bound depth start _ (by omega) hdepth.1
        (endsNumber_gap gap (endsNumber_cons ',' behind (by decide)))
      have hgap := skipGaps_gap gap (start + content.letters.length)
        (noGap_cons ',' behind rfl)
      have hafter := skipGaps_gap afterComma
        (start + content.letters.length + gap.letters.length + 1)
        (noGap_members others (.character '\x7d' :: rest))
      have hothers := members_script others bound depth (start + content.letters.length +
        gap.letters.length + 1 + afterComma.letters.length)
        (setEntry name.content content.content found) rest (by omega) hdepth.2
      simp only [List.map_append, List.map_cons, List.append_assoc, List.cons_append]
      rw [members_name name beforeColon afterColon (noGap_script content _)]
      simp only [behind, start] at hcontent hgap hafter hothers ⊢
      simp only [hcontent, hgap, hafter, hothers, Members.contents]
      simp
      omega

end

/-! ## Documents -/

/-- A document: a value with blanks around it. -/
structure Document where
  before : Gap
  script : Script
  after : Gap

namespace Document

def letters (document : Document) : List Char :=
  document.before.letters ++ (document.script.letters ++ document.after.letters)

def text (document : Document) : String :=
  String.ofList document.letters

def content (document : Document) : Json :=
  document.script.content

end Document

theorem decodeLetters_document (document : Document) {deepest : ℕ}
    (hdepth : document.script.depth ≤ deepest) :
    decodeLetters readExact deepest (document.letters.map .character) = .ok document.content := by
  obtain ⟨before, script, after⟩ := document
  have hend : EndsNumber ([] : List Letter) := fun _ hletter => nomatch hletter
  have hnone : NoGap [] := fun _ hletter => nomatch hletter
  have hbefore := skipGaps_gap before 0 (noGap_script script (after.letters.map .character ++ []))
  have hvalue := value_script script (2 * (Document.letters ⟨before, script, after⟩).length + 2)
    deepest (0 + before.letters.length) (after.letters.map .character ++ [])
    (by simp only [Document.letters, List.length_append]; omega) hdepth (endsNumber_gap after hend)
  have hafter := skipGaps_gap after (0 + before.letters.length + script.letters.length) hnone
  simp only [Document.letters, List.map_append, List.length_append,
    List.append_nil] at hbefore hvalue hafter ⊢
  simp only [decodeLetters, List.length_append, List.length_map, hbefore, hvalue, hafter,
    Document.content]

/-- The decoder finds what the document holds, if it is not nested too deep. -/
theorem decodeExact_document (document : Document) {deepest : ℕ}
    (hdepth : document.script.depth ≤ deepest) :
    decodeExact deepest document.text = .ok document.content := by
  have hletters : (Spelling.ofText document.text).letters = document.letters.map .character := by
    simp [Spelling.ofText, Document.text]
  have hmark : ∀ others, document.letters.map Letter.character ≠
      .character '\uFEFF' :: others := by
    intro others hothers
    have hfirst : ∀ letter ∈ firstLetters, letter ≠ '\uFEFF' :=
      List.forall_iff_forall_mem.mp (by decide)
    obtain ⟨first, following, hscript, hmem⟩ := exists_first_letter document.script
    cases hbefore : document.before with
    | nil =>
        simp only [Document.letters, hbefore, Gap.letters, List.map_nil, List.nil_append, hscript,
          List.cons_append, List.map_cons] at hothers
        exact hfirst first hmem (Letter.character.inj (List.cons.inj hothers).1)
    | cons blank blanks =>
        simp only [Document.letters, hbefore, Gap.letters, List.map_cons, List.cons_append]
          at hothers
        have hblank := Letter.character.inj (List.cons.inj hothers).1
        cases blank <;> cases hblank
  unfold decodeExact
  rw [hletters]
  split
  · exact absurd ‹_› (hmark _)
  · exact decodeLetters_document document hdepth

end PriceBoard.Json
