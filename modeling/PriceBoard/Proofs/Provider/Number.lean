import PriceBoard.Proofs.Json.Exact
import PriceBoard.Proofs.Json.Script
import PriceBoard.Proofs.Provider.Figure
import PriceBoard.Proofs.Quotation
import PriceBoard.Proofs.Text.Split

/-!
# One number for both readers

The strict and the tolerant reader of figures agree on what is a number: whole numbers, decimals,
doubles, and texts that spell one of these; finite, and with exponents in range.  No truth value,
array or object is one, although both readers look at these as texts.  `Json.numeral?` is this
number, and `figure_eq_ok_iff`, `figureOr_of_spelled` and `figureOr_of_none` say what the readers
make of it; what is left of it as a time is said by `wholeSeconds_finite`.

So wherever the strict reader finds a number, the tolerant one finds the same, and wherever the
first blames the provider, the second falls back (`readers_agree`).  In an answer no whole number
and no decimal is refused, because the decoder leaves none that is out of range.
-/

namespace PriceBoard

/-! ## Texts that are no numbers -/

namespace Decimal

open Text

/-- A bracket that opens an array or an object. -/
def IsBracket (letter : Char) : Prop :=
  letter = '[' ∨ letter = '\x7b'

/-- What begins with a bracket spells no decimal. -/
theorem ofText_of_bracket {opening : String} {first : Char} (hopening : opening.toList = [first])
    (hfirst : IsBracket first) (inner closing : String) :
    ofText (opening ++ inner ++ closing) = .error .malformed := by
  have htext : (opening ++ inner ++ closing).toList = first :: (inner ++ closing).toList := by
    simp [hopening]
  have hblank : isBlank first = false := by
    rcases hfirst with rfl | rfl <;> decide
  obtain ⟨kept, hkept⟩ := exists_trimWord_cons hblank (inner ++ closing).toList
  have hfront : asciiForm? first = some first ∧ first ≠ '_' := by
    rcases hfirst with rfl | rfl <;> decide
  unfold ofText normalForm?
  rw [htext, hkept, List.filter_cons_of_pos (by simpa using hfront.2), List.mapM_cons, hfront.1]
  cases (kept.filter (· ≠ '_')).mapM asciiForm? with
  | none => rfl
  | some others => rcases hfirst with rfl | rfl <;> rfl

end Decimal

/-! ## The number -/

namespace Json

/-- The number that the content is, as a number or as a text; nothing for content that is neither,
for what is not finite, and for exponents out of range. -/
def numeral? : Json → Option Numeral
  | integer value => if Decimal.inRange (.ofInt value) then some (.ofInt value) else none
  | decimal value => value.numeral?
  | double value => (Decimal.ofText (Double.text value)).toOption.bind Decimal.numeral?
  | string value => (Decimal.ofText value.text).toOption.bind Decimal.numeral?
  | _ => none

/-- The value of a whole number or a finite decimal; no other content is a number by itself. -/
def rational? : Json → Option ℚ
  | integer value => some value
  | decimal (.finite number) => some number.value
  | _ => none

end Json

namespace Provider

variable {content : Json} {number : Numeral}

theorem ofText_eq_iff {text : String} :
    Decimal.ofText text = .ok (.finite number) ↔
      (Decimal.ofText text).toOption.bind Decimal.numeral? = some number := by
  cases Decimal.ofText text with
  | error cause => simp [Except.toOption]
  | ok value => cases value <;> simp [Except.toOption, Decimal.numeral?]

/-- What a figure spells is its number. -/
theorem spelled_eq_iff :
    spelled content = .ok (.finite number) ↔ content.numeral? = some number := by
  cases content with
  | null =>
      have hmalformed : Decimal.ofText (Json.display .null) = .error .malformed := by decide
      simp [spelled, hmalformed, Json.numeral?]
  | bool value =>
      have hmalformed : Decimal.ofText (Json.display (.bool value)) = .error .malformed := by
        cases value <;> decide
      simp [spelled, hmalformed, Json.numeral?]
  | integer value =>
      have hdisplay : Json.display (.integer value) = toString value := Spelling.text_ofText _
      simp only [spelled, hdisplay, Json.Literal.ofText_toString_eq, Json.numeral?]
      split <;> simp
  | decimal value => cases value <;> simp [spelled, Json.numeral?, Decimal.numeral?]
  | double value =>
      have hdisplay : Json.display (.double value) = Double.text value := Spelling.text_ofText _
      simp only [spelled, hdisplay, Json.numeral?]
      exact ofText_eq_iff
  | string value => exact ofText_eq_iff
  | array items =>
      have hdisplay : Json.display (.array items) =
          "[" ++ ", ".intercalate (Json.quotedItems items) ++ "]" := Spelling.text_ofText _
      have hmalformed : Decimal.ofText (Json.display (.array items)) = .error .malformed := by
        rw [hdisplay]
        exact Decimal.ofText_of_bracket rfl (.inl rfl) _ _
      simp [spelled, hmalformed, Json.numeral?]
  | object fields =>
      have hdisplay : Json.display (.object fields) =
          "\x7b" ++ ", ".intercalate (Json.quotedFields fields) ++ "\x7d" := Spelling.text_ofText _
      have hmalformed : Decimal.ofText (Json.display (.object fields)) = .error .malformed := by
        rw [hdisplay]
        exact Decimal.ofText_of_bracket rfl (.inr rfl) _ _
      simp [spelled, hmalformed, Json.numeral?]

/-- The empty text is no number. -/
theorem numeral?_empty : (Json.string ⟨[]⟩).numeral? = none := by
  decide

/-- The strict reader reads the number, and nothing else. -/
theorem figure_eq_ok_iff (provider : String) (field : Spelling) :
    figure provider field content = .ok number ↔ content.numeral? = some number := by
  unfold figure
  split
  · simp [Json.numeral?]
  · simp [Json.numeral?]
  · simp [numeral?_empty]
  · rw [← spelled_eq_iff]
    cases hspelled : spelled content with
    | error cause => simp
    | ok value => cases value <;> simp

/-- If there is no number, the strict reader blames the provider. -/
theorem figure_of_none (provider : String) (field : Spelling) (hnone : content.numeral? = none) :
    ∃ reason, figure provider field content = .error (.protocol provider reason) := by
  rcases figure_kept provider field content with ⟨number, hnumber⟩ | hreason
  · cases hnone.symm.trans ((figure_eq_ok_iff provider field).mp hnumber)
  · exact hreason

/-- If there is no number, the tolerant reader takes the other one. -/
theorem figureOr_of_none (absent : Decimal) (hnone : content.numeral? = none) :
    figureOr absent content = absent := by
  have hspelled : ∀ number, spelled content ≠ .ok (.finite number) := by
    intro number hspelled
    cases hnone.symm.trans (spelled_eq_iff.mp hspelled)
  unfold figureOr
  split
  · rfl
  · rfl
  · cases hvalue : spelled content with
    | error cause => rfl
    | ok value =>
        cases value with
        | finite number => exact absurd hvalue (hspelled number)
        | infinity negative => rfl
        | nan negative signaling payload => rfl

/-- The tolerant reader reads the same number, and takes the other one if there is none. -/
theorem figureOr_finite (absent : Numeral) (content : Json) :
    figureOr (.finite absent) content = .finite (content.numeral?.getD absent) := by
  cases hnumber : content.numeral? with
  | some number => exact figureOr_of_spelled _ (spelled_eq_iff.mpr hnumber)
  | none => exact figureOr_of_none _ hnumber

/-! ## Numbers in answers -/

/-- The number that a whole number or a decimal is read as has its value. -/
theorem value_of_numeral? (hnumber : content.numeral? = some number) {value : ℚ}
    (hvalue : content.rational? = some value) : number.value = value := by
  cases content with
  | integer whole =>
      simp only [Json.numeral?] at hnumber
      split at hnumber
      · cases hnumber
        cases hvalue
        exact Numeral.value_ofInt whole
      · cases hnumber
  | decimal written =>
      cases written with
      | finite written =>
          cases hnumber
          cases hvalue
          rfl
      | infinity negative => cases hvalue
      | nan negative signaling payload => cases hvalue
  | _ => cases hvalue

/-- The texts of infinities and of what is not a number spell decimals, but no finite ones. -/
theorem numeral?_of_not_isFinite {value : Float} (hvalue : Double.isFinite value = false) :
    (Json.double value).numeral? = none := by
  cases hparts : Double.parts value with
  | finite negative significand exponent => simp [Double.isFinite, hparts] at hvalue
  | infinity negative =>
      simp only [Json.numeral?, Double.text, hparts]
      cases negative <;> decide
  | nan =>
      simp only [Json.numeral?, Double.text, hparts]
      decide

/-- Of what answers hold, the numbers are the whole numbers, the decimals, and the texts that spell
one. -/
theorem isSome_numeral?_iff (hexact : content.isExact = true) :
    content.numeral?.isSome = true ↔
      content.rational?.isSome = true ∨
        ∃ text number, content = .string text ∧
          Decimal.ofText text.text = .ok (.finite number) := by
  cases content with
  | integer value =>
      have hdigits : value.natAbs < 10 ^ Json.longestInteger := by
        simpa [Json.isExact] using hexact
      have hrange := Json.Literal.inRange_ofInt hdigits le_rfl
      simp [Json.numeral?, Json.rational?, hrange]
  | decimal value =>
      obtain ⟨number, rfl⟩ := Decimal.isFinite_iff.mp hexact
      simp [Json.numeral?, Json.rational?, Decimal.numeral?]
  | double value =>
      have hvalue : Double.isFinite value = false := by simpa [Json.isExact] using hexact
      simp [numeral?_of_not_isFinite hvalue, Json.rational?]
  | string text =>
      rw [Option.isSome_iff_exists]
      simp [Json.numeral?, Json.rational?, ofText_eq_iff]
  | _ => simp [Json.numeral?, Json.rational?]

/-- The two readers agree on all content: either both read the same number, which has the value of
the content if this is a whole number or a decimal; or the strict one blames the provider and the
tolerant one takes the other number.  Of what answers hold they read the whole numbers, the decimals
and the texts that spell a finite decimal, and nothing else. -/
theorem readers_agree (provider : String) (field : Spelling) (absent : Decimal) (content : Json) :
    ((∃ number, figure provider field content = .ok number ∧
          figureOr absent content = .finite number ∧
          ∀ value, content.rational? = some value → number.value = value) ∨
      (∃ reason, figure provider field content = .error (.protocol provider reason)) ∧
        figureOr absent content = absent) ∧
    ∀ deepest answer document, Json.decodeExact deepest answer = .ok document →
      content.IsPart document →
      ((∃ number, figure provider field content = .ok number) ↔
        content.rational?.isSome = true ∨
          ∃ text number, content = .string text ∧
            Decimal.ofText text.text = .ok (.finite number)) := by
  constructor
  · cases hnumber : content.numeral? with
    | some number =>
        have hstrict := (figure_eq_ok_iff provider field).mpr hnumber
        have htolerant := figureOr_of_spelled absent (spelled_eq_iff.mpr hnumber)
        exact .inl ⟨number, hstrict, htolerant, fun _ => value_of_numeral? hnumber⟩
    | none =>
        exact .inr ⟨figure_of_none provider field hnumber, figureOr_of_none absent hnumber⟩
  · intro deepest answer document hdocument hpart
    have hexact := Json.isExact_of_decodeExact hdocument hpart
    rw [← isSome_numeral?_iff hexact, Option.isSome_iff_exists]
    simp only [figure_eq_ok_iff]

/-- A price as a text with blanks around it, an underscore and a digit of another script. -/
def oddPrice : Spelling :=
  .ofText " 1_５.50 "

/-- An answer that holds a truth value and the price. -/
def oddAnswer : Json.Document where
  before := []
  script := .array [] (.cons (.word .true) [] [.space]
    (.last (.text (.ofPlain " 1_５.50 " (by decide))) []))
  after := []

theorem content_oddAnswer : oddAnswer.content = .array [.bool true, .string oddPrice] := by
  simp only [oddAnswer, Json.Document.content, Json.Script.content, Json.Items.contents,
    Json.Word.content, Json.Quoted.content_ofPlain, oddPrice]

theorem readers_agree_of_oddPrice :
    Json.decodeExact 1 oddAnswer.text = .ok (.array [.bool true, .string oddPrice]) ∧
      (Json.string oddPrice).IsPart (.array [.bool true, .string oddPrice]) ∧
      ∃ number, figure "coingecko" "polkadot.usd" (.string oddPrice) = .ok number := by
  have hdocument : Json.decodeExact 1 oddAnswer.text =
      .ok (.array [.bool true, .string oddPrice]) := by
    rw [← content_oddAnswer]
    exact Json.decodeExact_document oddAnswer (by decide)
  have hpart : (Json.string oddPrice).IsPart (.array [.bool true, .string oddPrice]) :=
    .item (.tail _ (.head _)) .whole
  have hspelled : Decimal.ofText oddPrice.text = .ok (.finite ⟨false, 1550, -2⟩) := by
    decide +kernel
  have hreads := (readers_agree "coingecko" "polkadot.usd" (.finite .zero) _).2 _ _ _ hdocument hpart
  exact ⟨hdocument, hpart, hreads.mpr (.inr ⟨_, _, rfl, hspelled⟩)⟩

/-! ## Whole seconds -/

/-- A time is cut to whole seconds towards zero, if they can be written down. -/
theorem wholeSeconds_finite
    (hsmall : ¬ (number.isZero = false ∧ Numeral.exponentCeiling ≤ number.exponent)) :
    wholeSeconds (.finite number) = .ok (Numeral.towardZero number.value) := by
  rw [wholeSeconds, Numeral.truncate?_eq, if_neg hsmall]
  rfl

end Provider

end PriceBoard
