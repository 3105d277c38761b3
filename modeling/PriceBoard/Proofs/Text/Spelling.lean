import Mathlib.Data.List.Basic
import PriceBoard.Console
import PriceBoard.Text.Upper

/-!
# Spellings that are texts

A spelling is a text if no half of a pair stands alone in it (`isText`).  Texts are what every
console prints, and a console that sends its lines on prints nothing else
(`exists_print_strict_iff`).
-/

namespace PriceBoard

namespace Spelling

theorem ofText_inj {first second : String} :
    Spelling.ofText first = .ofText second ↔ first = second := by
  refine ⟨fun hsame => ?_, congrArg _⟩
  have htext := congrArg text hsame
  rwa [text_ofText, text_ofText] at htext

@[simp] theorem text?_ofText (text : String) : (Spelling.ofText text).text? = some text := by
  have hletters : (text.toList.map Letter.character).mapM Letter.character? = some text.toList := by
    induction text.toList with
    | nil => rfl
    | cons letter others ih => simp [ih, Letter.character?]
  rw [text?, ofText, hletters, Option.map_some, String.ofList_toList]

/-- Whether no half of a pair stands alone. -/
def isText (spelling : Spelling) : Bool :=
  spelling.letters.all fun letter => !letter.isHalf

variable {spelling : Spelling}

@[simp] theorem isText_ofText (text : String) : (ofText text).isText = true := by
  simp [isText, ofText, Letter.isHalf]

@[simp] theorem isText_append (first second : Spelling) :
    (first ++ second).isText = (first.isText && second.isText) :=
  List.all_append

/-- Upper case takes no character apart. -/
theorem isText_upper (htext : spelling.isText = true) : spelling.upper.isText = true := by
  refine List.all_eq_true.mpr fun letter hletter => ?_
  obtain ⟨origin, horigin, hmem⟩ := List.mem_flatMap.mp hletter
  cases origin with
  | character value =>
      obtain ⟨_, -, rfl⟩ := List.mem_map.mp hmem
      rfl
  | half code => cases List.all_eq_true.mp htext _ horigin

/-- A text is spelled in one way only. -/
theorem eq_ofText_of_isText (htext : spelling.isText = true) : spelling = ofText spelling.text := by
  have hletters : ∀ letter ∈ spelling.letters, Letter.character letter.shown = letter := by
    intro letter hletter
    cases letter with
    | character value => rfl
    | half code =>
        have hhalf := List.all_eq_true.mp htext (.half code) hletter
        cases hhalf
  have hsame : spelling.letters.map (Letter.character ∘ Letter.shown) = spelling.letters :=
    (List.map_congr_left hletters).trans (List.map_id _)
  rw [ofText, text, String.toList_ofList, List.map_map, hsame]

theorem firstHalves?_eq_none_iff (position : ℕ) (letters : List Letter) :
    firstHalves? position letters = none ↔ (letters.all fun letter => !letter.isHalf) = true := by
  induction letters generalizing position with
  | nil => simp [firstHalves?]
  | cons letter others ih =>
      cases letter with
      | character value => simpa [firstHalves?, Letter.isHalf] using ih (position + 1)
      | half code => simp [firstHalves?, Letter.isHalf]

theorem halves?_eq_none_iff : spelling.halves? = none ↔ spelling.isText = true :=
  firstHalves?_eq_none_iff 0 spelling.letters

end Spelling

namespace Console

variable {line : Spelling}

/-- Every console prints what is a text. -/
theorem print_of_isText (console : Console) (hline : line.isText = true) :
    console.print line = .ok line.text := by
  rw [Spelling.eq_ofText_of_isText hline, console.print_ofText, Spelling.text_ofText]

/-- A console that sends its lines on prints texts only. -/
theorem exists_print_strict_iff :
    (∃ shown, strict.print line = .ok shown) ↔ line.isText = true := by
  rw [← Spelling.halves?_eq_none_iff]
  change (∃ shown, send line = .ok shown) ↔ _
  unfold send Fault.encoding?
  cases line.halves? <;> simp

end Console

end PriceBoard
