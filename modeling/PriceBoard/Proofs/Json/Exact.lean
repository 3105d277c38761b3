import Mathlib.Data.List.TakeWhile
import PriceBoard.Proofs.Entries
import PriceBoard.Proofs.Json.Literal
import PriceBoard.Proofs.Outcome

/-!
# Numbers in answers

Whatever an answer holds, at any depth, its numbers are ones that nothing is lost of: whole numbers
within the limit of their digits, finite decimals, and doubles only for the infinities and for what
is not a number (`isExact_of_decodeExact`).

## Strategy

The letters that the decoder takes for a number are those of a literal (`exists_literal`), so that
what it makes of them is the content of this literal (`content_of_reading`).  The readers of values,
items and members are by recursion on a bound, and one induction on it shows that each of them adds
only parts with exact numbers to those it has found (`holdsExact_value`, `holdsExact_items`,
`holdsExact_members`).
-/

namespace PriceBoard.Json

open Decimal

/-! ## Parts of documents -/

/-- Content that a document holds, at any depth; the document itself is its largest part. -/
inductive IsPart (content : Json) : Json → Prop
  | whole : IsPart content content
  | item {items : List Json} {item : Json} (hitem : item ∈ items) (hpart : IsPart content item) :
      IsPart content (.array items)
  | field {fields : Fields} {entry : Spelling × Json} (hentry : entry ∈ fields)
      (hpart : IsPart content entry.2) : IsPart content (.object fields)

/-- Whether nothing is lost of the content, if it is a number: a whole number is within the limit of
digits, a decimal is finite, and a double is not. -/
def isExact : Json → Bool
  | integer value => value.natAbs < 10 ^ longestInteger
  | decimal value => value.isFinite
  | double value => !Double.isFinite value
  | _ => true

/-- All numbers in the document are exact. -/
def HoldsExact (document : Json) : Prop :=
  ∀ content : Json, content.IsPart document → content.isExact = true

theorem holdsExact_array {items : List Json} (hitems : ∀ item ∈ items, HoldsExact item) :
    HoldsExact (.array items) := by
  intro content hpart
  cases hpart with
  | whole => rfl
  | item hitem hpart => exact hitems _ hitem content hpart

theorem holdsExact_object {fields : Fields} (hfields : ∀ entry ∈ fields, HoldsExact entry.2) :
    HoldsExact (.object fields) := by
  intro content hpart
  cases hpart with
  | whole => rfl
  | field hentry hpart => exact hfields _ hentry content hpart

/-! ## Literals at the front of a text -/

theorem isDigit_eq (letter : Char) : Decimal.isDigit letter = letter.isDigit := by
  have hsome : Decimal.isDigit letter = true ↔ letter.isDigit = true := by
    simp [Decimal.isDigit, Text.asciiDigit?, Char.isDigit, UInt32.le_iff_toNat_le]
  exact Bool.eq_iff_iff.mpr hsome

theorem exists_digits_takeWhile (word : List Char) :
    ∃ digits : List (Fin 10), word.takeWhile Decimal.isDigit = digits.map digitChar := by
  refine Literal.exists_digits fun letter hletter => ?_
  rw [← isDigit_eq]
  exact List.mem_takeWhile_imp hletter

theorem exists_digits_wholeDigits (word : List Char) :
    ∃ digits : List (Fin 10), wholeDigits word = digits.map digitChar := by
  unfold wholeDigits
  split
  · exact ⟨[0], rfl⟩
  · exact exists_digits_takeWhile _

theorem exists_fraction (word : List Char) :
    ∃ fraction : List (Fin 10), fractionLetters word =
      if fraction = [] then [] else '.' :: fraction.map digitChar := by
  unfold fractionLetters
  split
  · rename_i rest
    obtain ⟨digits, hdigits⟩ := exists_digits_takeWhile rest
    exact ⟨digits, by simp [hdigits]⟩
  · exact ⟨[], rfl⟩

/-- At most one letter of a class is taken off the front. -/
theorem filter_take_one (inClass : Char → Bool) (word : List Char) :
    (word.take 1).filter inClass = [] ∨
      ∃ letter, inClass letter = true ∧ (word.take 1).filter inClass = [letter] := by
  cases word with
  | nil => exact .inl rfl
  | cons letter others =>
      by_cases hletter : inClass letter = true
      · exact .inr ⟨letter, hletter, by simp [hletter]⟩
      · exact .inl (by simp [hletter])

theorem exists_sign (word : List Char) :
    ∃ negative : Bool, (word.take 1).filter (· = '-') = if negative then ['-'] else [] := by
  rcases filter_take_one (· = '-') word with hnone | ⟨letter, hletter, hsign⟩
  · exact ⟨false, hnone⟩
  · rw [of_decide_eq_true hletter] at hsign
    exact ⟨true, hsign⟩

theorem exists_exponentSign (word : List Char) :
    ∃ sign : Option Bool, ((word.take 1).filter fun letter => letter = '-' || letter = '+') =
      ExponentPart.signLetters sign := by
  rcases filter_take_one (fun letter => letter = '-' || letter = '+') word with
    hnone | ⟨letter, hletter, hsign⟩
  · exact ⟨none, hnone⟩
  · have hcases : letter = '-' ∨ letter = '+' := by simpa using hletter
    rcases hcases with rfl | rfl
    · exact ⟨some true, hsign⟩
    · exact ⟨some false, hsign⟩

theorem exists_exponent (word : List Char) :
    ∃ exponent : Option ExponentPart,
      exponentLetters word = exponent.elim [] ExponentPart.letters := by
  cases word with
  | nil => exact ⟨none, rfl⟩
  | cons mark rest =>
      by_cases hmark : mark = 'e' ∨ mark = 'E'
      · obtain ⟨sign, hsign⟩ := exists_exponentSign rest
        obtain ⟨digits, hdigits⟩ :=
          exists_digits_takeWhile (rest.drop (ExponentPart.signLetters sign).length)
        have hfront : (mark = 'e' || mark = 'E') = true := by simpa using hmark
        simp only [exponentLetters, hfront, if_true, hsign, hdigits]
        cases digits with
        | nil => exact ⟨none, rfl⟩
        | cons first others =>
            refine ⟨some ⟨decide (mark = 'E'), sign, first, others⟩, ?_⟩
            rcases hmark with rfl | rfl <;> rfl
      · refine ⟨none, ?_⟩
        have hfront : (mark = 'e' || mark = 'E') = false := by simpa using hmark
        simp only [exponentLetters, hfront, Bool.false_eq_true, if_false]
        rfl

/-- The letters of the longest number at the front of a text are those of a literal. -/
theorem exists_literal {word : List Char} (hsome : (numberLetters word).1 ≠ []) :
    ∃ literal : Literal, numberLetters word = (literal.letters, literal.isFraction) := by
  obtain ⟨negative, hsign⟩ := exists_sign word
  unfold numberLetters at hsome ⊢
  simp only [hsign] at hsome ⊢
  generalize word.drop (if negative then ['-'] else []).length = rest at hsome ⊢
  obtain ⟨digits, hwhole⟩ := exists_digits_wholeDigits rest
  simp only [hwhole] at hsome ⊢
  cases digits with
  | nil => exact absurd rfl hsome
  | cons first others =>
      obtain ⟨fraction, hfraction⟩ :=
        exists_fraction (rest.drop ((first :: others).map digitChar).length)
      simp only [hfraction]
      obtain ⟨exponent, hexponent⟩ := exists_exponent
        ((rest.drop ((first :: others).map digitChar).length).drop
          (if fraction = [] then [] else '.' :: fraction.map digitChar).length)
      simp only [hexponent]
      refine ⟨⟨negative, first, others, fraction, exponent⟩, ?_⟩
      rw [Literal.isFraction_eq]
      simp [Literal.letters, Literal.signLetters, Literal.unsignedLetters, Literal.whole,
        Literal.fractionLetters, Literal.exponentLetters]

/-! ## Numbers -/

/-- The content of a literal is exact, if a whole number is within the limit of digits. -/
theorem holdsExact_content (literal : Literal)
    (hlength : literal.isFraction = false → literal.whole.length ≤ longestInteger) :
    HoldsExact literal.content := by
  intro content hpart
  unfold Literal.content at hpart
  split at hpart
  · cases hpart
    rfl
  · rename_i hfraction
    cases hpart
    have hdigits := hlength (by simpa using hfraction)
    have hmagnitude : literal.wholeNumber.natAbs = spelledBy literal.whole := by
      unfold Literal.wholeNumber
      split <;> simp
    have hlt : spelledBy literal.whole < 10 ^ longestInteger :=
      (spelledBy_lt literal.whole).trans_le (Nat.pow_le_pow_right (by norm_num) hdigits)
    simpa [isExact, hmagnitude] using hlt

/-- What is made of the letters of a literal is its content; a whole number that is too long is
refused. -/
theorem content_of_reading (literal : Literal) {content : Json}
    (hread : (if literal.isFraction then
        (readExact (String.ofList literal.letters)).mapError DecodeFault.number
      else integerOf literal.letters) = .ok content) :
    content = literal.content ∧
      (literal.isFraction = false → literal.whole.length ≤ longestInteger) := by
  unfold Literal.content
  cases hfraction : literal.isFraction with
  | false =>
      rw [hfraction, if_neg Bool.false_ne_true, literal.integerOf_letters hfraction] at hread
      split at hread
      · cases hread
      · rename_i hshort
        cases hread
        exact ⟨rfl, fun _ => not_lt.mp hshort⟩
  | true =>
      rw [hfraction, if_pos rfl, readExact, literal.ofText_letters] at hread
      split at hread
      · cases hread
        refine ⟨rfl, ?_⟩
        intro hwhole
        cases hwhole
      · cases hread

theorem holdsExact_number {position after : ℕ} {word rest : List Letter} {content : Json}
    (hread : number readExact position word = .ok (content, after, rest)) :
    HoldsExact content := by
  by_cases hnone : (numberLetters (numberFront word)).1 = []
  · simp [number, hnone, malformed] at hread
  · obtain ⟨literal, hliteral⟩ := exists_literal hnone
    have hsome : literal.letters.isEmpty = false := by simpa [hliteral] using hnone
    simp only [number, hliteral, hsome, Bool.false_eq_true, if_false] at hread
    obtain ⟨value, hvalue, hresult⟩ := map_eq_ok hread
    obtain ⟨rfl, hlength⟩ := content_of_reading literal hvalue
    cases hresult
    exact holdsExact_content literal hlength

theorem holdsExact_namedValues : ∀ entry ∈ namedValues, HoldsExact entry.2 := by
  intro entry hentry content hpart
  simp only [namedValues, List.mem_cons, List.not_mem_nil, or_false] at hentry
  rcases hentry with rfl | rfl | rfl | rfl | rfl | rfl <;> (cases hpart; decide)

theorem holdsExact_scalar {position after : ℕ} {word rest : List Letter} {content : Json}
    (hread : scalar readExact position word = .ok (content, after, rest)) :
    HoldsExact content := by
  unfold scalar at hread
  split at hread
  · rename_i name meant hfound
    cases hread
    exact holdsExact_namedValues _ (List.mem_of_find?_eq_some hfound)
  · exact holdsExact_number hread

/-! ## Documents -/

mutual

theorem holdsExact_value {bound depth position after : ℕ} {word rest : List Letter}
    {content : Json}
    (hread : value readExact bound depth position word = .ok (content, after, rest)) :
    HoldsExact content := by
  cases bound with
  | zero => cases hread
  | succ bound =>
      unfold value at hread
      split at hread
      · rename_i hzero
        cases hzero
      · obtain ⟨⟨text, behind⟩, -, htext⟩ := map_eq_ok hread
        cases htext
        intro content hpart
        cases hpart
        rfl
      · rename_i hbound
        cases hbound
        split at hread
        · cases hread
        · split at hread
          · cases hread
            exact holdsExact_array (List.forall_mem_nil _)
          · exact holdsExact_items (List.forall_mem_nil _) hread
      · rename_i hbound
        cases hbound
        split at hread
        · cases hread
        · split at hread
          · cases hread
            exact holdsExact_object (List.forall_mem_nil _)
          · exact holdsExact_members (List.forall_mem_nil _) hread
      · exact holdsExact_scalar hread

theorem holdsExact_items {bound depth position after : ℕ} {found : List Json}
    {word rest : List Letter} {content : Json} (hfound : ∀ item ∈ found, HoldsExact item)
    (hread : items readExact bound depth position found word = .ok (content, after, rest)) :
    HoldsExact content := by
  cases bound with
  | zero => cases hread
  | succ bound =>
      unfold items at hread
      split at hread
      · cases hread
      · -- the item that was read joins those found so far
        rename_i item position rest hitem
        have hitems := List.forall_mem_cons.mpr ⟨holdsExact_value hitem, hfound⟩
        split at hread
        · cases hread
          exact holdsExact_array fun item hmem => hitems item (List.mem_reverse.mp hmem)
        · exact holdsExact_items hitems hread
        · cases hread

theorem holdsExact_members {bound depth position after : ℕ} {found : Fields}
    {word rest : List Letter} {content : Json} (hfound : ∀ entry ∈ found, HoldsExact entry.2)
    (hread : members readExact bound depth position found word = .ok (content, after, rest)) :
    HoldsExact content := by
  cases bound with
  | zero => cases hread
  | succ bound =>
      unfold members at hread
      split at hread
      · rename_i hzero
        cases hzero
      · rename_i hbound
        cases hbound
        split at hread
        · cases hread
        · rename_i name position rest hname
          split at hread
          · dsimp only at hread
            split at hread
            · cases hread
            · rename_i value position rest hvalue
              -- the value is set in the place of an earlier one with the name, if there is one
              have hfields : ∀ entry ∈ setEntry name value _, HoldsExact entry.2 :=
                forall_mem_setEntry (holdsExact_value hvalue) hfound
              split at hread
              · cases hread
                exact holdsExact_object hfields
              · exact holdsExact_members hfields hread
              · cases hread
          · cases hread
      · cases hread

end

theorem holdsExact_decodeLetters {deepest : ℕ} {word : List Letter} {document : Json}
    (hdocument : decodeLetters readExact deepest word = .ok document) : HoldsExact document := by
  unfold decodeLetters at hdocument
  split at hdocument
  split at hdocument
  · cases hdocument
  · rename_i hvalue
    split at hdocument
    · cases hdocument
      exact holdsExact_value hvalue
    · cases hdocument

/-- All numbers in an answer are exact, at any depth. -/
theorem isExact_of_decodeExact {deepest : ℕ} {answer : String} {document content : Json}
    (hdocument : decodeExact deepest answer = .ok document) (hpart : content.IsPart document) :
    content.isExact = true := by
  unfold decodeExact at hdocument
  split at hdocument
  · cases hdocument
  · exact holdsExact_decodeLetters hdocument content hpart

end PriceBoard.Json
