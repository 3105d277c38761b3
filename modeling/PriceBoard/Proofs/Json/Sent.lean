import PriceBoard.Json.Compact
import PriceBoard.Proofs.Json.Script
import PriceBoard.Proofs.Text.Encoding
import PriceBoard.Proofs.Text.Split

/-!
# Documents read back as they are sent

A client sends a document, and whoever receives it reads the same document: `decode_sent`.  This is
for documents without numbers, all of whose fields are sent under names of their own, and whose
texts hold no halves of pairs; `PlainWithin` collects these conditions, together with the depth that
the receiver accepts.

## Strategy

A sent text is a row of pieces, one for each character (`exists_piece`), so that the reader of
pieces reads it.  From there on the induction follows the document: `SentAs` says that the reader of
values takes a text and leaves what follows, and the readers of items and of fields go on from one
part to the next.
-/

namespace PriceBoard.Json

variable {fraction : String → Except Signal Json} {depth : ℕ}

/-! ## Texts -/

theorem plain_append (first second : String) :
    plain (first ++ second) = plain first ++ plain second := by
  simp [plain]

theorem plain_commaJoin_singleton (text : String) : plain (Text.commaJoin [text]) = plain text := by
  rw [Text.commaJoin, String.intercalate_singleton]

theorem plain_commaJoin_cons (first second : String) (others : List String) :
    plain (Text.commaJoin (first :: second :: others)) =
      plain first ++ .character ',' :: plain (Text.commaJoin (second :: others)) := by
  rw [Text.commaJoin, String.intercalate_cons_cons, ← Text.commaJoin, plain_append, plain_append,
    List.append_assoc]
  rfl

theorem commaLetters_plain (texts : List String) :
    commaLetters (texts.map plain) = plain (Text.commaJoin texts) := by
  induction texts with
  | nil => rfl
  | cons first others ih =>
      cases others with
      | nil => exact (plain_commaJoin_singleton first).symm
      | cons second more =>
          rw [plain_commaJoin_cons, ← ih, List.map_cons, List.map_cons, commaLetters]
          · rw [List.append_assoc]
            rfl
          · simp

/-- A join starts with its first part. -/
theorem exists_commaJoin (first : String) (others : List String) :
    ∃ behind, Text.commaJoin (first :: others) = first ++ behind := by
  cases others with
  | nil => exact ⟨"", by rw [Text.commaJoin, String.intercalate_singleton, String.append_empty]⟩
  | cons second more =>
      refine ⟨"," ++ Text.commaJoin (second :: more), ?_⟩
      rw [Text.commaJoin, String.intercalate_cons_cons, ← Text.commaJoin, String.append_assoc]

theorem exists_plain_commaJoin (first : String) (others : List String) (rest : List Letter) :
    ∃ behind, plain (Text.commaJoin (first :: others)) ++ rest = plain first ++ behind := by
  obtain ⟨behind, hbehind⟩ := exists_commaJoin first others
  exact ⟨plain behind ++ rest, by rw [hbehind, plain_append, List.append_assoc]⟩

/-- Control characters are sent by their number. -/
theorem exists_unicode_of_control {letter : Char} (hlow : letter.toNat < 0x20) :
    ∃ a b c d, Text.hexWord 4 letter.toNat = [a, b, c, d] ∧
      hexCode? (.character a) (.character b) (.character c) (.character d) =
        some letter.toNat := by
  have hall : ∀ code : Fin 0x20,
      hexCode? (.character (Text.hexLetter (code / 16 / 16 / 16 % 16)))
        (.character (Text.hexLetter (code / 16 / 16 % 16)))
        (.character (Text.hexLetter (code / 16 % 16)))
        (.character (Text.hexLetter (code % 16))) = some code.val := by
    decide
  exact ⟨_, _, _, _, rfl, hall ⟨letter.toNat, hlow⟩⟩

/-- A sent character is a piece that stands for the character, whatever follows. -/
theorem exists_piece (letter : Char) :
    ∃ piece : Piece, piece.letters = sentCharacter letter ∧
      ∀ others, lettersOf (piece :: others) = .character letter :: lettersOf others := by
  unfold sentCharacter
  simp only [Bool.or_eq_true, decide_eq_true_eq]
  split_ifs with hmark hnewline hreturn htab hfeed hback hlow
  · rcases hmark with rfl | rfl
    · exact ⟨.escape '"' '"' rfl, rfl, fun _ => rfl⟩
    · exact ⟨.escape '\\' '\\' rfl, rfl, fun _ => rfl⟩
  · exact ⟨.escape 'n' letter (by rw [hnewline]; rfl), rfl, fun _ => rfl⟩
  · exact ⟨.escape 'r' letter (by rw [hreturn]; rfl), rfl, fun _ => rfl⟩
  · exact ⟨.escape 't' letter (by rw [htab]; rfl), rfl, fun _ => rfl⟩
  · exact ⟨.escape 'f' letter (by rw [hfeed]; rfl), rfl, fun _ => rfl⟩
  · exact ⟨.escape 'b' letter (by rw [hback]; rfl), rfl, fun _ => rfl⟩
  · obtain ⟨a, b, c, d, hword, hcode⟩ := exists_unicode_of_control hlow
    have hhigh : Text.isHighHalf letter.toNat = false := by
      simp [Text.isHighHalf]
      omega
    have hsecond : Text.isLowHalf letter.toNat = false := by
      simp [Text.isLowHalf]
      omega
    have hletter : Letter.ofCode letter.toNat = .character letter := by
      simp [Letter.ofCode, hhigh, hsecond]
    refine ⟨.unicode a b c d letter.toNat hcode, ?_, fun others => ?_⟩
    · rw [Piece.letters, hword]
    · -- a control character is no half of a pair, also in front of another number
      cases others with
      | nil => simp [lettersOf, hletter]
      | cons piece others => cases piece <;> simp [lettersOf, hhigh, hletter]
  · refine ⟨.plain letter ?_, rfl, fun _ => rfl⟩
    rw [not_or] at hmark
    simpa [isUnescaped, hmark.1, hmark.2] using hlow

/-- A sent text is made of pieces. -/
theorem exists_pieces (word : List Char) :
    ∃ pieces : List Piece, pieces.flatMap Piece.letters = word.flatMap sentCharacter ∧
      lettersOf pieces = word.map .character := by
  induction word with
  | nil => exact ⟨[], rfl, rfl⟩
  | cons letter others ih =>
      obtain ⟨piece, hpiece, hmeant⟩ := exists_piece letter
      obtain ⟨pieces, hpieces, hothers⟩ := ih
      exact ⟨piece :: pieces, by rw [List.flatMap_cons, List.flatMap_cons, hpiece, hpieces],
        by rw [hmeant, hothers, List.map_cons]⟩

/-- A text as it is sent. -/
def sentForm (text : String) : String :=
  "\"" ++ String.ofList (text.toList.flatMap sentCharacter) ++ "\""

theorem sentText_ofText (text : String) : sentText (.ofText text) = plain (sentForm text) := by
  have hletters : (Spelling.ofText text).letters.flatMap sentLetter =
      (text.toList.flatMap sentCharacter).map .character := by
    rw [Spelling.ofText, List.flatMap_map, List.map_flatMap]
    rfl
  rw [sentText, hletters, sentForm, plain_append, plain_append]
  simp [plain]

theorem textTail_sentForm (text : String) (start position : ℕ) (rest : List Letter) :
    ∃ after, textTail start position []
        ((text.toList.flatMap sentCharacter).map .character ++ .character '"' :: rest) =
      .ok (.ofText text, after, rest) := by
  obtain ⟨pieces, hpieces, hmeant⟩ := exists_pieces text.toList
  refine ⟨position + (pieces.flatMap Piece.letters).length + 1, ?_⟩
  rw [← hpieces, textTail_pieces, hmeant]
  rfl

/-- A sent text starts and ends with its marks. -/
theorem plain_sentForm_append (text : String) (rest : List Letter) :
    plain (sentForm text) ++ rest = .character '"' ::
      ((text.toList.flatMap sentCharacter).map .character ++ .character '"' :: rest) := by
  simp [sentForm, plain]

/-! ## Parts of a document -/

theorem skipGaps_of_noGap {rest : List Letter} (hrest : NoGap rest) (position : ℕ) :
    skipGaps position rest = (position, rest) := by
  simpa [Gap.letters] using skipGaps_gap [] position hrest

/-- The text is taken for the content: it starts like a value, and the reader of values takes it and
leaves what follows. -/
structure SentAs (fraction : String → Except Signal Json) (depth : ℕ) (text : String)
    (content : Json) : Prop where
  starts : ∃ first others, text.toList = first :: others ∧ first ∈ firstLetters
  reads : ∀ bound position rest, 2 * (plain text).length ≤ bound →
    ∃ after, value fraction bound depth position (plain text ++ rest) = .ok (content, after, rest)

/-- The text is taken for a field. -/
def SentField (fraction : String → Except Signal Json) (depth : ℕ) (text : String)
    (field : Spelling × Json) : Prop :=
  ∃ name written, text = sentForm name ++ ":" ++ written ∧ field.1 = .ofText name ∧
    SentAs fraction depth written field.2

theorem SentAs.noGap {text : String} {content : Json}
    (hsent : SentAs fraction depth text content) (rest : List Letter) :
    NoGap (plain text ++ rest) := by
  obtain ⟨first, others, htext, hfirst⟩ := hsent.starts
  rw [plain, htext]
  exact noGap_of_first _ hfirst

theorem SentField.noGap {text : String} {field : Spelling × Json}
    (hsent : SentField fraction depth text field) (rest : List Letter) :
    NoGap (plain text ++ rest) := by
  obtain ⟨name, written, rfl, -, -⟩ := hsent
  rw [plain_append, plain_append, List.append_assoc, List.append_assoc, plain_sentForm_append]
  exact noGap_cons '"' _ rfl

theorem noGap_commaJoin {first : String} (hfirst : ∀ rest, NoGap (plain first ++ rest))
    (others : List String) (rest : List Letter) :
    NoGap (plain (Text.commaJoin (first :: others)) ++ rest) := by
  obtain ⟨behind, hbehind⟩ := exists_plain_commaJoin first others rest
  rw [hbehind]
  exact hfirst behind

/-! ## Values without parts -/

/-- A value has a letter at least, so that there is some bound to read it. -/
theorem sentAs_of_reads {text : String} {content : Json}
    (hstarts : ∃ first others, text.toList = first :: others ∧ first ∈ firstLetters)
    (hreads : ∀ bound position rest, 2 * (plain text).length ≤ bound + 1 →
      ∃ after, value fraction (bound + 1) depth position (plain text ++ rest) =
        .ok (content, after, rest)) : SentAs fraction depth text content := by
  refine ⟨hstarts, ?_⟩
  intro bound position rest hbound
  obtain ⟨first, others, htext, -⟩ := hstarts
  have hlength : (plain text).length = others.length + 1 := by simp [plain, htext]
  obtain ⟨bound, rfl⟩ : ∃ smaller, bound = smaller + 1 := ⟨bound - 1, by omega⟩
  exact hreads bound position rest hbound

theorem sentAs_text (text : String) :
    SentAs fraction depth (sentForm text) (.string (.ofText text)) := by
  apply sentAs_of_reads
  · exact ⟨'"', text.toList.flatMap sentCharacter ++ ['"'], by simp [sentForm], by decide⟩
  · intro bound position rest _
    obtain ⟨after, htail⟩ := textTail_sentForm text position (position + 1) rest
    refine ⟨after, ?_⟩
    rw [plain_sentForm_append, value, htail]
    rfl

theorem sentAs_null : SentAs fraction depth "null" .null := by
  apply sentAs_of_reads
  · exact ⟨'n', ['u', 'l', 'l'], rfl, by decide⟩
  · intro bound position rest _
    exact ⟨position + 4, rfl⟩

theorem sentAs_bool (meant : Bool) :
    SentAs fraction depth (if meant then "true" else "false") (.bool meant) := by
  apply sentAs_of_reads
  · cases meant with
    | false => exact ⟨'f', ['a', 'l', 's', 'e'], rfl, by decide⟩
    | true => exact ⟨'t', ['r', 'u', 'e'], rfl, by decide⟩
  · intro bound position rest _
    cases meant with
    | false => exact ⟨position + 5, rfl⟩
    | true => exact ⟨position + 4, rfl⟩

/-! ## Items and fields -/

/-- Items are read up to the end of their array. -/
theorem items_sent {texts : List String} {contents : List Json}
    (hsent : List.Forall₂ (SentAs fraction depth) texts contents) (hne : texts ≠ []) :
    ∀ bound position found rest, 2 * (plain (Text.commaJoin texts)).length + 1 ≤ bound →
      ∃ after, items fraction bound depth position found
        (plain (Text.commaJoin texts) ++ .character ']' :: rest) =
          .ok (.array (found.reverse ++ contents), after, rest) := by
  induction hsent with
  | nil => exact absurd rfl hne
  | @cons text content texts contents hfirst hothers ih =>
      intro bound position found rest hbound
      obtain ⟨bound, rfl⟩ : ∃ smaller, bound = smaller + 1 := ⟨bound - 1, by omega⟩
      cases hothers with
      | nil =>
          rw [plain_commaJoin_singleton] at hbound ⊢
          obtain ⟨after, hread⟩ := hfirst.reads bound position (.character ']' :: rest) (by omega)
          have hgap := skipGaps_of_noGap (noGap_cons ']' rest rfl) after
          refine ⟨after + 1, ?_⟩
          rw [items, hread]
          simp [hgap]
      | @cons second next more others hsecond hmore =>
          rw [plain_commaJoin_cons, List.length_append, List.length_cons] at hbound
          rw [plain_commaJoin_cons, List.append_assoc, List.cons_append]
          let behind := plain (Text.commaJoin (second :: more)) ++ .character ']' :: rest
          obtain ⟨after, hread⟩ := hfirst.reads bound position (.character ',' :: behind) (by omega)
          have hgap := skipGaps_of_noGap (noGap_cons ',' behind rfl) after
          have hbehind : NoGap behind := noGap_commaJoin hsecond.noGap more _
          obtain ⟨last, hlast⟩ := ih (by simp) bound (after + 1) (content :: found) rest (by omega)
          refine ⟨last, ?_⟩
          rw [items, hread]
          simp only [hgap, skipGaps_of_noGap hbehind]
          rw [hlast]
          simp

/-- How the reader of fields goes on after a field: with the next one or with the end. -/
def afterField (fraction : String → Except Signal Json) (bound depth position : ℕ) (found : Fields)
    (rest : List Letter) : Read Json :=
  match skipGaps position rest with
  | (position, .character '\x7d' :: rest) => .ok (.object found, position + 1, rest)
  | (position, .character ',' :: rest) =>
    let (position, rest) := skipGaps (position + 1) rest
    members fraction bound depth position found rest
  | (position, _) => malformed .commaExpected position

theorem SentField.reads {text : String} {field : Spelling × Json}
    (hsent : SentField fraction depth text field) :
    ∀ bound position found rest, 2 * (plain text).length ≤ bound →
      ∃ after, members fraction (bound + 1) depth position found (plain text ++ rest) =
        afterField fraction bound depth after (setEntry field.1 field.2 found) rest := by
  intro bound position found rest hbound
  obtain ⟨name, written, rfl, hname, hwritten⟩ := hsent
  have hcolon : plain ":" = [.character ':'] := rfl
  rw [plain_append, List.length_append] at hbound
  rw [plain_append, plain_append, hcolon, List.append_assoc, List.append_assoc,
    List.singleton_append, plain_sentForm_append]
  obtain ⟨start, htail⟩ := textTail_sentForm name position (position + 1)
    (.character ':' :: (plain written ++ rest))
  have hgap := skipGaps_of_noGap (noGap_cons ':' (plain written ++ rest) rfl) start
  have hvalue := skipGaps_of_noGap (hwritten.noGap rest) (start + 1)
  obtain ⟨after, hread⟩ := hwritten.reads bound (start + 1) rest (by omega)
  refine ⟨after, ?_⟩
  rw [members, hname]
  simp only [htail, hgap, hvalue, hread]
  rfl

/-- Fields are read up to the end of their object. -/
theorem members_sent {texts : List String} {fields : Fields}
    (hsent : List.Forall₂ (SentField fraction depth) texts fields) (hne : texts ≠ []) :
    ∀ bound position found rest, 2 * (plain (Text.commaJoin texts)).length + 1 ≤ bound →
      ∃ after, members fraction bound depth position found
        (plain (Text.commaJoin texts) ++ .character '\x7d' :: rest) =
          .ok (.object (fields.foldl (fun table field => setEntry field.1 field.2 table) found),
            after, rest) := by
  induction hsent with
  | nil => exact absurd rfl hne
  | @cons text field texts fields hfirst hothers ih =>
      intro bound position found rest hbound
      obtain ⟨bound, rfl⟩ : ∃ smaller, bound = smaller + 1 := ⟨bound - 1, by omega⟩
      cases hothers with
      | nil =>
          rw [plain_commaJoin_singleton] at hbound ⊢
          obtain ⟨after, hread⟩ :=
            hfirst.reads bound position found (.character '\x7d' :: rest) (by omega)
          have hgap := skipGaps_of_noGap (noGap_cons '\x7d' rest rfl) after
          refine ⟨after + 1, ?_⟩
          rw [hread, afterField, hgap]
          rfl
      | @cons second next more others hsecond hmore =>
          rw [plain_commaJoin_cons, List.length_append, List.length_cons] at hbound
          rw [plain_commaJoin_cons, List.append_assoc, List.cons_append]
          let behind := plain (Text.commaJoin (second :: more)) ++ .character '\x7d' :: rest
          obtain ⟨after, hread⟩ :=
            hfirst.reads bound position found (.character ',' :: behind) (by omega)
          have hgap := skipGaps_of_noGap (noGap_cons ',' behind rfl) after
          have hbehind : NoGap behind := noGap_commaJoin hsecond.noGap more _
          obtain ⟨last, hlast⟩ := ih (by simp) bound (after + 1)
            (setEntry field.1 field.2 found) rest (by omega)
          refine ⟨last, ?_⟩
          rw [hread, afterField, hgap]
          simp only [skipGaps_of_noGap hbehind]
          exact hlast

theorem sentAs_array {texts : List String} {contents : List Json}
    (hsent : List.Forall₂ (SentAs fraction depth) texts contents) :
    SentAs fraction (depth + 1) ("[" ++ Text.commaJoin texts ++ "]") (.array contents) := by
  have hletters : ∀ rest, plain ("[" ++ Text.commaJoin texts ++ "]") ++ rest =
      .character '[' :: (plain (Text.commaJoin texts) ++ .character ']' :: rest) := by
    intro rest
    simp [plain]
  apply sentAs_of_reads ⟨'[', (Text.commaJoin texts).toList ++ [']'], by simp, by decide⟩
  intro bound position rest hbound
  have hlength := congrArg List.length (hletters [])
  simp only [List.append_nil, List.length_cons, List.length_append, List.length_nil] at hlength
  rw [hletters, value]
  cases hsent with
  | nil =>
      have hgap := skipGaps_of_noGap (noGap_cons ']' rest rfl) (position + 1)
      exact ⟨position + 1 + 1, by simp [Text.commaJoin, plain, hgap]⟩
  | @cons first content others contents hfirst hothers =>
      obtain ⟨behind, hbehind⟩ :=
        exists_plain_commaJoin first others (.character ']' :: rest)
      have hgap := skipGaps_of_noGap (hfirst.noGap behind) (position + 1)
      obtain ⟨after, hread⟩ := items_sent (.cons hfirst hothers) (by simp) bound (position + 1) []
        rest (by omega)
      refine ⟨after, ?_⟩
      rw [hbehind] at hread ⊢
      simp only [hgap]
      obtain ⟨letter, following, htext, hletter⟩ := hfirst.starts
      have hclosing : ∀ letter ∈ firstLetters, letter ≠ ']' :=
        List.forall_iff_forall_mem.mp (by decide)
      rw [plain, htext, List.map_cons, List.cons_append] at hread ⊢
      split
      · rename_i hsplit
        exact absurd (Letter.character.inj (List.cons.inj (Prod.mk.inj hsplit).2).1)
          (hclosing letter hletter)
      · rename_i hsplit
        obtain ⟨rfl, rfl⟩ := Prod.mk.inj hsplit
        exact hread

theorem sentAs_object {texts : List String} {fields : Fields}
    (hsent : List.Forall₂ (SentField fraction depth) texts fields)
    (hnames : (fields.map Prod.fst).Nodup) :
    SentAs fraction (depth + 1) ("\x7b" ++ Text.commaJoin texts ++ "\x7d") (.object fields) := by
  have hletters : ∀ rest, plain ("\x7b" ++ Text.commaJoin texts ++ "\x7d") ++ rest =
      .character '\x7b' :: (plain (Text.commaJoin texts) ++ .character '\x7d' :: rest) := by
    intro rest
    simp [plain]
  apply sentAs_of_reads
    ⟨'\x7b', (Text.commaJoin texts).toList ++ ['\x7d'], by simp, by decide⟩
  intro bound position rest hbound
  have hlength := congrArg List.length (hletters [])
  simp only [List.append_nil, List.length_cons, List.length_append, List.length_nil] at hlength
  rw [hletters, value]
  cases hsent with
  | nil =>
      have hgap := skipGaps_of_noGap (noGap_cons '\x7d' rest rfl) (position + 1)
      exact ⟨position + 1 + 1, by simp [Text.commaJoin, plain, hgap]⟩
  | @cons first field others fields hfirst hothers =>
      obtain ⟨after, hread⟩ := members_sent (.cons hfirst hothers) (by simp) bound (position + 1) []
        rest (by omega)
      have htable := foldl_setEntry_of_nodup Prod.fst Prod.snd (field :: fields) []
        (by simpa using hnames)
      simp only [List.nil_append, List.map_id'] at htable
      rw [htable] at hread
      refine ⟨after, ?_⟩
      obtain ⟨behind, hbehind⟩ := exists_plain_commaJoin first others (.character '\x7d' :: rest)
      have hgap := skipGaps_of_noGap (hfirst.noGap behind) (position + 1)
      rw [hbehind] at hread ⊢
      simp only [hgap]
      obtain ⟨name, written, rfl, -, -⟩ := hfirst
      rw [plain_append, plain_append, List.append_assoc, List.append_assoc,
        plain_sentForm_append] at hread ⊢
      exact hread

/-! ## Documents -/

mutual

/-- Whether the content is read again from what is sent of it, by a reader to whom it may be nested
to the depth: it has no numbers, its texts hold no halves of pairs, and the names of its fields are
distinct and all sent. -/
def PlainWithin : ℕ → Json → Prop
  | _, .null => True
  | _, .bool _ => True
  | _, .string spelling => ∃ text, spelling = .ofText text
  | depth + 1, .array items => PlainItems depth items
  | depth + 1, .object fields => (fields.map Prod.fst).Nodup ∧ PlainFields depth fields
  | _, _ => False

def PlainItems : ℕ → List Json → Prop
  | _, [] => True
  | depth, item :: others => PlainWithin depth item ∧ PlainItems depth others

def PlainFields : ℕ → Fields → Prop
  | _, [] => True
  | depth, (name, value) :: others =>
    (∃ text, name = .ofText text) ∧ isSent name = true ∧ PlainWithin depth value ∧
      PlainFields depth others

end

section

variable (fraction)

mutual

theorem exists_sentAs {depth : ℕ} : ∀ {document : Json}, PlainWithin depth document →
    ∃ text, document.compact? = some (plain text) ∧ SentAs fraction depth text document
  | .null, _ => ⟨"null", by rw [compact?], sentAs_null⟩
  | .bool meant, _ => ⟨_, by rw [compact?], sentAs_bool meant⟩
  | .string spelling, hplain => by
      obtain ⟨text, rfl⟩ : ∃ text, spelling = .ofText text := by simpa [PlainWithin] using hplain
      exact ⟨sentForm text, by rw [compact?, sentText_ofText], sentAs_text text⟩
  | .array items, hplain => by
      cases depth with
      | zero => exact absurd hplain (by simp [PlainWithin])
      | succ depth =>
          obtain ⟨texts, hcompact, hsent⟩ := exists_sentItems (by simpa [PlainWithin] using hplain)
          refine ⟨_, ?_, sentAs_array hsent⟩
          rw [compact?, hcompact, plain_append, plain_append, ← commaLetters_plain]
          rfl
  | .object fields, hplain => by
      cases depth with
      | zero => exact absurd hplain (by simp [PlainWithin])
      | succ depth =>
          obtain ⟨hnames, hfields⟩ : (fields.map Prod.fst).Nodup ∧ PlainFields depth fields := by
            simpa [PlainWithin] using hplain
          obtain ⟨texts, hcompact, hsent⟩ := exists_sentFields hfields
          refine ⟨_, ?_, sentAs_object hsent hnames⟩
          rw [compact?, hcompact, plain_append, plain_append, ← commaLetters_plain]
          rfl

theorem exists_sentItems {depth : ℕ} : ∀ {items : List Json}, PlainItems depth items →
    ∃ texts : List String, compactItems? items = some (texts.map plain) ∧
      List.Forall₂ (SentAs fraction depth) texts items
  | [], _ => ⟨[], rfl, .nil⟩
  | item :: others, hplain => by
      obtain ⟨hitem, hothers⟩ : PlainWithin depth item ∧ PlainItems depth others := by
        simpa [PlainItems] using hplain
      obtain ⟨text, hcompact, hsent⟩ := exists_sentAs hitem
      obtain ⟨texts, hcompacts, hsents⟩ := exists_sentItems hothers
      exact ⟨text :: texts, by rw [compactItems?, hcompact, hcompacts]; rfl, .cons hsent hsents⟩

theorem exists_sentFields {depth : ℕ} : ∀ {fields : Fields}, PlainFields depth fields →
    ∃ texts : List String, compactFields? fields = some (texts.map plain) ∧
      List.Forall₂ (SentField fraction depth) texts fields
  | [], _ => ⟨[], rfl, .nil⟩
  | (name, value) :: others, hplain => by
      obtain ⟨⟨text, rfl⟩, hname, hvalue, hothers⟩ : (∃ text, name = .ofText text) ∧
          isSent name = true ∧ PlainWithin depth value ∧ PlainFields depth others := by
        simpa [PlainFields] using hplain
      obtain ⟨written, hcompact, hsent⟩ := exists_sentAs hvalue
      obtain ⟨texts, hcompacts, hsents⟩ := exists_sentFields hothers
      refine ⟨(sentForm text ++ ":" ++ written) :: texts, ?_,
        .cons ⟨text, written, rfl, rfl, hsent⟩ hsents⟩
      rw [compactFields?, hname, hcompact, hcompacts, List.map_cons, plain_append, plain_append,
        ← sentText_ofText]
      rfl

end

end

/-- How fractions are read where they need not be exact. -/
def readDouble (written : String) : Except Signal Json :=
  .ok ((Double.ofText? written).elim .null .double)

theorem decode_of_sentAs {deepest : ℕ} {text : String} {document : Json}
    (hsent : SentAs readDouble deepest text document) :
    decode deepest (plain text) = .ok document := by
  have hfront := skipGaps_of_noGap (hsent.noGap []) 0
  obtain ⟨after, hread⟩ := hsent.reads (2 * (plain text).length + 2) 0 [] (by omega)
  rw [List.append_nil] at hfront hread
  change decodeLetters readDouble deepest (plain text) = _
  simp only [decodeLetters, hfront]
  rw [hread]
  rfl

/-- What is sent of a document is read as the document. -/
theorem decode_sent {deepest : ℕ} {document : Json} (hplain : PlainWithin deepest document) :
    ∃ text, document.compact? = some (plain text) ∧
      decode deepest (plain text) = .ok document := by
  obtain ⟨text, hcompact, hsent⟩ := exists_sentAs readDouble hplain
  exact ⟨text, hcompact, decode_of_sentAs hsent⟩

/-- The first letters of a sent array are no zeros, so that it is taken for what it is. -/
theorem decode?_array {texts : List String} {items : List Json}
    (hsent : List.Forall₂ (SentAs fraction depth) texts items) :
    Text.decode? ("[" ++ Text.commaJoin texts ++ "]") =
      some (plain ("[" ++ Text.commaJoin texts ++ "]")) := by
  have hopening : Text.IsAsciiMark '[' := by decide
  cases hsent with
  | nil => exact Text.decode?_of_front rfl hopening (by decide)
  | @cons first item others items hfirst hothers =>
      have hmarks : ∀ letter ∈ firstLetters, Text.IsAsciiMark letter :=
        List.forall_iff_forall_mem.mp (by decide)
      obtain ⟨letter, following, hletters, hletter⟩ := hfirst.starts
      obtain ⟨behind, hbehind⟩ := exists_commaJoin first others
      have hfront : ("[" ++ Text.commaJoin (first :: others) ++ "]").toList =
          '[' :: letter :: (following ++ behind.toList ++ [']']) := by
        simp [hbehind, hletters]
      exact Text.decode?_of_front hfront hopening (hmarks letter hletter)

/-- What is sent of an array arrives and is read as the array. -/
theorem decode_sent_array {deepest : ℕ} {items : List Json} (hplain : PlainItems deepest items) :
    ∃ text, (array items).compact? = some (plain text) ∧ Text.decode? text = some (plain text) ∧
      decode (deepest + 1) (plain text) = .ok (array items) := by
  obtain ⟨texts, hcompact, hsent⟩ := exists_sentItems readDouble hplain
  refine ⟨_, ?_, decode?_array hsent, decode_of_sentAs (sentAs_array hsent)⟩
  rw [compact?, hcompact, plain_append, plain_append, ← commaLetters_plain]
  rfl

end PriceBoard.Json
