import Mathlib.Data.List.Induction
import Mathlib.Tactic.FieldSimp
import PriceBoard.Json.Decoder
import PriceBoard.Proofs.Decimal.Value

/-!
# Numbers as they are written

A number in a document is a sign, digits, maybe a fraction and maybe an exponent.  A `Literal` is
such a number, by its digits, and `Literal.value` is what it denotes.

All readers find the same in it.  The decoder takes just its letters (`numberLetters_literal`), and
what is made of the letters, a whole number or a decimal, has the value of the literal, however many
digits there are: `integerOf_literal`, `ofText_literal`.
-/

namespace PriceBoard.Json

open Decimal

/-! ## Digits -/

/-- The letter of a digit. -/
def digitChar (digit : Fin 10) : Char :=
  Text.digitLetter digit

/-- The number that the digits spell. -/
def spelledBy (digits : List (Fin 10)) : ℕ :=
  digits.foldl (fun number (digit : Fin 10) => 10 * number + digit) 0

theorem isDigit_digitChar : ∀ digit : Fin 10, isDigit (digitChar digit) = true := by
  decide

theorem toNat_digitChar : ∀ digit : Fin 10, (digitChar digit).toNat - '0'.toNat = digit := by
  decide

theorem digitChar_eq_zero_iff : ∀ digit : Fin 10, digitChar digit = '0' ↔ digit = 0 := by
  decide

theorem digitChar_ne_sign : ∀ digit : Fin 10, digitChar digit ≠ '-' ∧ digitChar digit ≠ '+' := by
  decide

theorem numberOf_digits (digits : List (Fin 10)) :
    numberOf (digits.map digitChar) = spelledBy digits := by
  unfold numberOf spelledBy
  rw [List.foldl_map]
  simp only [toNat_digitChar]

theorem spelledBy_append (digits others : List (Fin 10)) :
    spelledBy (digits ++ others) = spelledBy digits * 10 ^ others.length + spelledBy others := by
  induction others using List.reverseRecOn with
  | nil => simp [spelledBy]
  | append_singleton others digit ih =>
      have hlast : ∀ digits : List (Fin 10),
          spelledBy (digits ++ [digit]) = 10 * spelledBy digits + digit := by
        intro digits
        simp [spelledBy]
      rw [← List.append_assoc, hlast, hlast, ih, List.length_append, List.length_singleton, pow_succ]
      ring

theorem spelledBy_lt (digits : List (Fin 10)) : spelledBy digits < 10 ^ digits.length := by
  induction digits using List.reverseRecOn with
  | nil => simp [spelledBy]
  | append_singleton digits digit ih =>
      have hlast : spelledBy [digit] = digit := by simp [spelledBy]
      have hdigit := digit.isLt
      rw [spelledBy_append, hlast, List.length_append, List.length_singleton, pow_succ]
      omega

/-- A text that does not go on with a digit. -/
def NoDigitFront (word : List Char) : Prop :=
  ∀ letter ∈ word.head?, isDigit letter = false

theorem takeWhile_digits (digits : List (Fin 10)) {rest : List Char} (hrest : NoDigitFront rest) :
    (digits.map digitChar ++ rest).takeWhile isDigit = digits.map digitChar := by
  induction digits with
  | nil =>
      cases rest with
      | nil => rfl
      | cons letter others => simp [hrest letter rfl]
  | cons digit others ih => simp [isDigit_digitChar, ih]

theorem dropWhile_digits (digits : List (Fin 10)) {rest : List Char} (hrest : NoDigitFront rest) :
    (digits.map digitChar ++ rest).dropWhile isDigit = rest := by
  induction digits with
  | nil =>
      cases rest with
      | nil => rfl
      | cons letter others => simp [hrest letter rfl]
  | cons digit others ih => simp [isDigit_digitChar, ih]

/-- The letters that stand in numbers. -/
def numberAlphabet : List Char :=
  ['-', '+', '.', 'e', 'E', '0', '1', '2', '3', '4', '5', '6', '7', '8', '9']

/-! ## Literals -/

/-- An exponent: whether its mark is a capital letter, its sign, if there is one, and its digits. -/
structure ExponentPart where
  capital : Bool
  /-- A minus or a plus. -/
  sign : Option Bool
  first : Fin 10
  others : List (Fin 10)

namespace ExponentPart

def signLetters : Option Bool → List Char
  | none => []
  | some negative => if negative then ['-'] else ['+']

def digits (part : ExponentPart) : List (Fin 10) :=
  part.first :: part.others

def letters (part : ExponentPart) : List Char :=
  (if part.capital then 'E' else 'e') :: (signLetters part.sign ++ part.digits.map digitChar)

/-- The exponent that is written. -/
def value (part : ExponentPart) : ℤ :=
  if part.sign = some true then -(spelledBy part.digits : ℤ) else spelledBy part.digits

end ExponentPart

/-- A number as it is written: a sign, the digits of the whole part, of which there is at least one,
the digits of a fraction, if there are any, and an exponent, if there is one. -/
structure Literal where
  negative : Bool
  first : Fin 10
  others : List (Fin 10)
  fraction : List (Fin 10)
  exponent : Option ExponentPart

namespace Literal

variable (literal : Literal)

def whole : List (Fin 10) :=
  literal.first :: literal.others

def fractionLetters : List Char :=
  if literal.fraction = [] then [] else '.' :: literal.fraction.map digitChar

def exponentLetters : List Char :=
  literal.exponent.elim [] ExponentPart.letters

def unsignedLetters : List Char :=
  literal.whole.map digitChar ++ (literal.fractionLetters ++ literal.exponentLetters)

def signLetters : List Char :=
  if literal.negative then ['-'] else []

/-- The number, letter by letter. -/
def letters : List Char :=
  literal.signLetters ++ literal.unsignedLetters

/-- Whether the number has a fraction or an exponent. -/
def isFraction : Bool :=
  !literal.fraction.isEmpty || literal.exponent.isSome

def exponentValue : ℤ :=
  literal.exponent.elim 0 ExponentPart.value

/-- The number that is written. -/
def value : ℚ :=
  (if literal.negative then -1 else 1) *
    ((spelledBy literal.whole + spelledBy literal.fraction / 10 ^ literal.fraction.length) *
      10 ^ literal.exponentValue)

/-- The number that its whole part spells. -/
def wholeNumber : ℤ :=
  if literal.negative then -(spelledBy literal.whole : ℤ) else spelledBy literal.whole

/-- The numeral with the digits of the number. -/
def numeral : Numeral :=
  ⟨literal.negative, spelledBy (literal.whole ++ literal.fraction),
    literal.exponentValue - literal.fraction.length⟩

theorem value_numeral : literal.numeral.value = literal.value := by
  have hpower : (10 : ℚ) ^ (literal.exponentValue - literal.fraction.length) =
      10 ^ literal.exponentValue / 10 ^ literal.fraction.length := by
    rw [zpow_sub₀ (by norm_num), zpow_natCast]
  have hcoefficient : (spelledBy (literal.whole ++ literal.fraction) : ℚ) =
      spelledBy literal.whole * 10 ^ literal.fraction.length + spelledBy literal.fraction := by
    rw [spelledBy_append]
    push_cast
    rfl
  have hmagnitude : literal.numeral.magnitude =
      (spelledBy literal.whole + spelledBy literal.fraction / 10 ^ literal.fraction.length) *
        10 ^ literal.exponentValue := by
    simp only [Numeral.magnitude, numeral]
    rw [hpower, hcoefficient]
    field_simp
  rw [Numeral.value_eq, hmagnitude, value]
  cases hsign : literal.negative <;> simp [numeral, hsign]

/-! ## Letters -/

theorem digitChar_mem_numberAlphabet : ∀ digit : Fin 10, digitChar digit ∈ numberAlphabet := by
  decide

theorem mem_numberAlphabet {letter : Char} (hletter : letter ∈ literal.letters) :
    letter ∈ numberAlphabet := by
  have hdigits : ∀ digits : List (Fin 10), letter ∈ digits.map digitChar →
      letter ∈ numberAlphabet := by
    intro digits hdigit
    obtain ⟨digit, -, rfl⟩ := List.mem_map.mp hdigit
    exact digitChar_mem_numberAlphabet digit
  simp only [letters, unsignedLetters, List.mem_append] at hletter
  rcases hletter with hsign | hwhole | hfraction | hexponent
  · unfold signLetters at hsign
    split at hsign
    · cases List.mem_singleton.mp hsign
      decide
    · cases hsign
  · exact hdigits _ hwhole
  · unfold fractionLetters at hfraction
    split at hfraction
    · cases hfraction
    · rcases List.mem_cons.mp hfraction with rfl | hdigit
      · decide
      · exact hdigits _ hdigit
  · unfold exponentLetters at hexponent
    cases hpart : literal.exponent with
    | none =>
        rw [hpart] at hexponent
        cases hexponent
    | some part =>
        rw [hpart] at hexponent
        simp only [Option.elim, ExponentPart.letters, List.mem_cons, List.mem_append] at hexponent
        rcases hexponent with rfl | hsign | hdigit
        · split <;> decide
        · cases hcase : part.sign with
          | none =>
              rw [hcase] at hsign
              cases hsign
          | some negative =>
              rw [hcase] at hsign
              cases negative <;> (cases List.mem_singleton.mp hsign; decide)
        · exact hdigits _ hdigit

/-- An exponent starts with its mark. -/
theorem exponentLetters_eq : literal.exponentLetters = [] ∨
    (∃ others, literal.exponentLetters = 'e' :: others) ∨
      ∃ others, literal.exponentLetters = 'E' :: others := by
  unfold exponentLetters
  cases literal.exponent with
  | none => exact .inl rfl
  | some part =>
      cases hcapital : part.capital with
      | false => exact .inr (.inl ⟨_, by simp [ExponentPart.letters, hcapital]; rfl⟩)
      | true => exact .inr (.inr ⟨_, by simp [ExponentPart.letters, hcapital]; rfl⟩)

theorem noDigitFront_exponentLetters : NoDigitFront literal.exponentLetters := by
  intro letter hletter
  rcases literal.exponentLetters_eq with hexponent | ⟨others, hexponent⟩ | ⟨others, hexponent⟩
  · simp [hexponent] at hletter
  · rw [hexponent] at hletter
    cases hletter
    decide
  · rw [hexponent] at hletter
    cases hletter
    decide

theorem noDigitFront_fractionLetters :
    NoDigitFront (literal.fractionLetters ++ literal.exponentLetters) := by
  unfold fractionLetters
  split
  · exact literal.noDigitFront_exponentLetters
  · intro letter hletter
    cases hletter
    decide

/-! ## Longest numbers -/

theorem wholeDigits_literal (hzero : literal.first = 0 → literal.others = []) {rest : List Char}
    (hrest : NoDigitFront rest) :
    wholeDigits (literal.whole.map digitChar ++ rest) = literal.whole.map digitChar := by
  by_cases hfirst : literal.first = 0
  · have hothers := hzero hfirst
    have hletter : digitChar 0 = '0' := rfl
    simp [whole, hfirst, hothers, hletter, wholeDigits]
  · have hne : digitChar literal.first ≠ '0' := by
      rw [ne_eq, digitChar_eq_zero_iff]
      exact hfirst
    have hlongest : wholeDigits (literal.whole.map digitChar ++ rest) =
        (literal.whole.map digitChar ++ rest).takeWhile isDigit := by
      simp only [whole, List.map_cons, List.cons_append]
      rw [wholeDigits]
      intro others hothers
      exact hne (List.cons.inj hothers).1
    rw [hlongest, takeWhile_digits _ hrest]

theorem fractionLetters_literal :
    Json.fractionLetters (literal.fractionLetters ++ literal.exponentLetters) =
      literal.fractionLetters := by
  unfold fractionLetters
  split
  · -- an exponent does not start with a point
    rw [List.nil_append]
    rcases literal.exponentLetters_eq with hexponent | ⟨others, hexponent⟩ | ⟨others, hexponent⟩ <;>
      rw [hexponent] <;> rfl
  · simp [Json.fractionLetters, takeWhile_digits _ literal.noDigitFront_exponentLetters, *]

/-- The sign of an exponent is cut off at its digits. -/
theorem take_sign (part : ExponentPart) :
    ((ExponentPart.signLetters part.sign ++ part.digits.map digitChar).take 1).filter
      (fun letter => letter = '-' || letter = '+') = ExponentPart.signLetters part.sign := by
  have hfirst := digitChar_ne_sign part.first
  cases hsign : part.sign with
  | none => simp [ExponentPart.signLetters, ExponentPart.digits, hfirst.1, hfirst.2]
  | some negative => cases negative <;> simp [ExponentPart.signLetters]

theorem exponentLetters_literal :
    Json.exponentLetters literal.exponentLetters = literal.exponentLetters := by
  unfold exponentLetters
  cases literal.exponent with
  | none => rfl
  | some part =>
      have hdigits : (part.digits.map digitChar).takeWhile isDigit = part.digits.map digitChar := by
        have hend : NoDigitFront [] := fun _ hletter => nomatch hletter
        have hall := takeWhile_digits part.digits hend
        rwa [List.append_nil] at hall
      have hmark : ((if part.capital then 'E' else 'e') = 'e' ||
          (if part.capital then 'E' else 'e') = 'E') = true := by
        cases part.capital <;> rfl
      simp only [Option.elim, ExponentPart.letters, Json.exponentLetters, hmark, if_true, take_sign,
        List.drop_left, hdigits]
      simp [ExponentPart.digits]

/-- A number has a fraction or an exponent just if letters are written for one of them. -/
theorem isFraction_eq : literal.isFraction =
    !(literal.fractionLetters.isEmpty && literal.exponentLetters.isEmpty) := by
  unfold fractionLetters exponentLetters isFraction
  cases literal.fraction <;> cases literal.exponent <;> simp [ExponentPart.letters]

/-- Nothing of the number is left out, if it has no needless zeros. -/
theorem numberLetters_literal (hzero : literal.first = 0 → literal.others = []) :
    numberLetters literal.letters = (literal.letters, literal.isFraction) := by
  have hsign : (literal.letters.take 1).filter (· = '-') = literal.signLetters := by
    unfold letters signLetters
    cases literal.negative with
    | true => simp
    | false => simp [unsignedLetters, whole, (digitChar_ne_sign literal.first).1]
  have hwhole : (literal.whole.map digitChar).isEmpty = false := by simp [whole]
  have hrest : literal.letters.drop literal.signLetters.length = literal.unsignedLetters := by
    rw [letters, List.drop_left]
  unfold numberLetters
  simp only [hsign, hrest]
  simp only [unsignedLetters, literal.wholeDigits_literal hzero literal.noDigitFront_fractionLetters,
    List.drop_left, fractionLetters_literal, exponentLetters_literal, hwhole, isFraction_eq]
  simp [letters, unsignedLetters]

/-! ## Whole numbers -/

/-- The digits of a literal without a fraction are those of its whole part. -/
theorem unsignedLetters_of_not_isFraction (hwhole : literal.isFraction = false) :
    literal.unsignedLetters = literal.whole.map digitChar := by
  have hfraction : literal.fraction = [] ∧ literal.exponent = none := by
    simpa [isFraction] using hwhole
  simp [unsignedLetters, fractionLetters, exponentLetters, hfraction]

theorem value_of_not_isFraction (hwhole : literal.isFraction = false) :
    literal.value = literal.wholeNumber := by
  have hfraction : literal.fraction = [] ∧ literal.exponent = none := by
    simpa [isFraction] using hwhole
  simp only [value, exponentValue, hfraction, wholeNumber]
  cases literal.negative <;> simp [spelledBy]

theorem cutSign_letters : cutSign literal.letters = (literal.negative, literal.unsignedLetters) := by
  unfold letters signLetters
  cases literal.negative with
  | true => rfl
  | false =>
      have hfirst := digitChar_ne_sign literal.first
      simp only [unsignedLetters, whole, List.map_cons, List.cons_append, List.nil_append,
        Bool.false_eq_true, if_false]
      rw [cutSign]
      · intro rest hrest
        exact hfirst.1 (List.cons.inj hrest).1
      · intro rest hrest
        exact hfirst.2 (List.cons.inj hrest).1

/-- A number without a fraction is read as a whole number, up to the limit of digits. -/
theorem integerOf_letters (hwhole : literal.isFraction = false) :
    integerOf literal.letters =
      if longestInteger < literal.whole.length then .error (.longInteger literal.whole.length)
      else .ok (.integer literal.wholeNumber) := by
  simp only [integerOf, cutSign_letters, literal.unsignedLetters_of_not_isFraction hwhole,
    List.length_map, numberOf_digits, wholeNumber]

theorem integerOf_literal (hwhole : literal.isFraction = false)
    (hlength : literal.whole.length ≤ longestInteger) :
    integerOf literal.letters = .ok (.integer literal.wholeNumber) := by
  rw [literal.integerOf_letters hwhole, if_neg (not_lt.mpr hlength)]

/-! ## Decimals -/

theorem trimWord_eq_self {inClass : Char → Bool} {word : List Char}
    (hword : ∀ letter ∈ word, inClass letter = false) : Text.trimWord inClass word = word := by
  have hfront : ∀ word : List Char, (∀ letter ∈ word, inClass letter = false) →
      word.dropWhile inClass = word := by
    intro word hword
    cases word with
    | nil => rfl
    | cons letter others => simp [hword letter List.mem_cons_self]
  have hback : ∀ letter ∈ word.reverse, inClass letter = false := by
    simpa using hword
  rw [Text.trimWord, Text.dropLeading, hfront word hword, Text.dropTrailing,
    hfront word.reverse hback, List.reverse_reverse]

/-- The letters of numbers are read as they stand. -/
theorem normalForm?_of_alphabet {word : List Char}
    (hword : ∀ letter ∈ word, letter ∈ numberAlphabet) :
    normalForm? (String.ofList word) = some word := by
  have halphabet : ∀ letter ∈ numberAlphabet, Text.isBlank letter = false ∧ letter ≠ '_' ∧
      asciiForm? letter = some letter :=
    List.forall_iff_forall_mem.mp (by decide)
  have htrim : Text.trimWord Text.isBlank word = word :=
    trimWord_eq_self fun letter hletter => (halphabet letter (hword letter hletter)).1
  have hfilter : word.filter (· ≠ '_') = word := by
    rw [List.filter_eq_self]
    intro letter hletter
    simpa using (halphabet letter (hword letter hletter)).2.1
  rw [normalForm?, String.toList_ofList, htrim, hfilter]
  clear htrim hfilter
  induction word with
  | nil => rfl
  | cons letter others ih =>
      have hothers := ih fun other hother => hword other (List.mem_cons_of_mem _ hother)
      rw [List.mapM_cons, (halphabet letter (hword letter List.mem_cons_self)).2.2, hothers]
      rfl

theorem cutSign_exponent (part : ExponentPart) :
    cutSign (ExponentPart.signLetters part.sign ++ part.digits.map digitChar) =
      (decide (part.sign = some true), part.digits.map digitChar) := by
  cases part.sign with
  | none =>
      have hfirst := digitChar_ne_sign part.first
      simp only [ExponentPart.signLetters, ExponentPart.digits, List.nil_append, List.map_cons]
      rw [cutSign]
      · rfl
      · intro rest hrest
        exact hfirst.1 (List.cons.inj hrest).1
      · intro rest hrest
        exact hfirst.2 (List.cons.inj hrest).1
  | some negative => cases negative <;> rfl

theorem exponentOf?_literal : exponentOf? literal.exponentLetters = some literal.exponentValue := by
  unfold exponentLetters exponentValue
  cases literal.exponent with
  | none => rfl
  | some part =>
      have hmark : (if part.capital then 'E' else 'e').toLower = 'e' := by
        cases part.capital <;> decide
      have hsome : (part.digits.map digitChar).isEmpty = false := by simp [ExponentPart.digits]
      have hall : (part.digits.map digitChar).all isDigit = true := by
        simp [isDigit_digitChar]
      simp only [Option.elim, ExponentPart.letters, exponentOf?, hmark, if_true, cutSign_exponent,
        hsome, hall, numberOf_digits, ExponentPart.value]
      simp

/-- What is made of the parts, once they are apart. -/
theorem numeralOf_parts {fraction tail : List Char} (hfraction : fraction = literal.fraction.map digitChar)
    (htail : tail = literal.exponentLetters) :
    (match exponentOf? tail with
      | none => .error .malformed
      | some exponent =>
        let number : Numeral := ⟨literal.negative,
          numberOf (literal.whole.map digitChar ++ fraction), exponent - (fraction.length : ℤ)⟩
        if inRange number then .ok number else .error .invalid) =
      (if inRange literal.numeral then .ok literal.numeral
        else .error .invalid : Except Signal Numeral) := by
  subst hfraction htail
  have hnumber : numberOf (literal.whole.map digitChar ++ literal.fraction.map digitChar) =
      spelledBy (literal.whole ++ literal.fraction) := by
    rw [← List.map_append, numberOf_digits]
  simp only [exponentOf?_literal, hnumber, List.length_map]
  rfl

theorem numeralOf_literal :
    numeralOf literal.negative literal.unsignedLetters =
      if inRange literal.numeral then .ok literal.numeral else .error .invalid := by
  have hwhole := takeWhile_digits literal.whole literal.noDigitFront_fractionLetters
  have hrest := dropWhile_digits literal.whole literal.noDigitFront_fractionLetters
  have hsome : (literal.whole.map digitChar).isEmpty = false := by simp [whole]
  unfold numeralOf
  simp only [unsignedLetters, hwhole, hrest, hsome, Bool.false_and, Bool.false_eq_true, if_false]
  -- behind the whole part there is a point just if there is a fraction
  by_cases hfraction : literal.fraction = []
  · have hnone : literal.fractionLetters = [] := by simp [fractionLetters, hfraction]
    simp only [hnone, List.nil_append]
    have hempty : [] = literal.fraction.map digitChar := by rw [hfraction, List.map_nil]
    rcases literal.exponentLetters_eq with hexponent | ⟨others, hexponent⟩ | ⟨others, hexponent⟩
    · simp only [hexponent]
      exact literal.numeralOf_parts hempty hexponent.symm
    · simp only [hexponent]
      exact literal.numeralOf_parts hempty hexponent.symm
    · simp only [hexponent]
      exact literal.numeralOf_parts hempty hexponent.symm
  · have hpoint : literal.fractionLetters = '.' :: literal.fraction.map digitChar := by
      simp [fractionLetters, hfraction]
    simp only [hpoint, List.cons_append]
    exact literal.numeralOf_parts (takeWhile_digits _ literal.noDigitFront_exponentLetters)
      (dropWhile_digits _ literal.noDigitFront_exponentLetters)

/-- The text of a literal spells its numeral, if this is in the range of decimals. -/
theorem ofText_letters :
    Decimal.ofText (String.ofList literal.letters) =
      if inRange literal.numeral then .ok (.finite literal.numeral) else .error .invalid := by
  have hlower : ∀ digit : Fin 10, (digitChar digit).toLower = digitChar digit ∧
      digitChar digit ≠ 'i' ∧ digitChar digit ≠ 'n' ∧ digitChar digit ≠ 's' := by
    decide
  obtain ⟨hsame, hi, hn, hs⟩ := hlower literal.first
  have hunsigned : ofUnsigned literal.negative literal.unsignedLetters =
      (numeralOf literal.negative literal.unsignedLetters).map .finite := by
    have hfront : literal.unsignedLetters.map Char.toLower = digitChar literal.first ::
        (literal.others.map digitChar ++
          (literal.fractionLetters ++ literal.exponentLetters)).map Char.toLower := by
      simp [unsignedLetters, whole, hsame]
    have hinfinite : ∀ rest, (digitChar literal.first :: rest = ['i', 'n', 'f']) = False ∧
        (digitChar literal.first :: rest = ['i', 'n', 'f', 'i', 'n', 'i', 't', 'y']) = False := by
      simp [hi]
    simp only [ofUnsigned, hfront, hinfinite, decide_false, Bool.or_self, Bool.false_eq_true,
      if_false]
    split
    · rename_i heq
      exact absurd (List.cons.inj heq).1 hn
    · rename_i heq
      exact absurd (List.cons.inj heq).1 hs
    · rfl
  rw [Decimal.ofText, normalForm?_of_alphabet fun _ => literal.mem_numberAlphabet]
  simp only [cutSign_letters, hunsigned, literal.numeralOf_literal]
  split <;> rfl

/-- The decimal that the text of the literal spells has all of its digits. -/
theorem ofText_literal (hrange : inRange literal.numeral = true) :
    Decimal.ofText (String.ofList literal.letters) = .ok (.finite literal.numeral) := by
  rw [ofText_letters, if_pos hrange]

/-! ## Whole numbers written out -/

theorem exists_digits {word : List Char} (hword : ∀ letter ∈ word, letter.isDigit = true) :
    ∃ digits : List (Fin 10), word = digits.map digitChar := by
  induction word with
  | nil => exact ⟨[], rfl⟩
  | cons letter others ih =>
      obtain ⟨digits, rfl⟩ := ih fun other hother => hword other (List.mem_cons_of_mem _ hother)
      have hletter := hword letter List.mem_cons_self
      simp only [Char.isDigit, ge_iff_le, Bool.and_eq_true, decide_eq_true_eq,
        UInt32.le_iff_toNat_le] at hletter
      have hcode : '0'.toNat + (letter.toNat - '0'.toNat) = letter.toNat := by
        have hlow : '0'.toNat ≤ letter.toNat := hletter.1
        omega
      have hsmall : letter.toNat - '0'.toNat < 10 := by
        have hhigh : letter.toNat ≤ '9'.toNat := hletter.2
        have hnine : '9'.toNat = '0'.toNat + 9 := rfl
        omega
      refine ⟨⟨letter.toNat - '0'.toNat, hsmall⟩ :: digits, ?_⟩
      simp only [List.map_cons, digitChar, Text.digitLetter, hcode, Char.ofNat_toNat]

/-- A whole number is written as a literal. -/
theorem exists_literal_toString (number : ℤ) :
    ∃ literal : Literal, toString number = String.ofList literal.letters ∧
      literal.numeral = .ofInt number := by
  have hnatural : ∀ magnitude : ℕ, ∃ first others,
      Nat.toDigits 10 magnitude = (first :: others).map digitChar ∧
        spelledBy (first :: others) = magnitude := by
    intro magnitude
    have hletters : ∀ letter ∈ Nat.toDigits 10 magnitude, letter.isDigit = true :=
      fun _ => Nat.isDigit_of_mem_toDigits (by norm_num) le_rfl
    obtain ⟨digits, hdigits⟩ := exists_digits hletters
    cases digits with
    | nil => exact absurd hdigits Nat.toDigits_ne_nil
    | cons first others =>
        refine ⟨first, others, hdigits, ?_⟩
        rw [← numberOf_digits, ← hdigits]
        exact Nat.ofDigitChars_toDigits (by norm_num) le_rfl
  obtain ⟨first, others, hletters, hvalue⟩ := hnatural number.natAbs
  refine ⟨⟨decide (number < 0), first, others, [], none⟩, ?_, ?_⟩
  · have hunsigned : ((first :: others).map digitChar ++ ([] ++ [])) =
        Nat.toDigits 10 number.natAbs := by
      rw [List.append_nil, List.append_nil, hletters]
    cases number with
    | ofNat magnitude =>
        simp only [letters, signLetters, unsignedLetters, whole, fractionLetters, exponentLetters,
          if_true, Option.elim, hunsigned]
        rfl
    | negSucc below =>
        have hnegative : decide (Int.negSucc below < 0) = true :=
          decide_eq_true (Int.negSucc_lt_zero below)
        simp only [letters, signLetters, unsignedLetters, whole, fractionLetters, exponentLetters,
          if_true, Option.elim, hunsigned, hnegative]
        change "-" ++ String.ofList (Nat.toDigits 10 (below + 1)) = _
        rw [String.ofList_append]
        rfl
  · simp only [numeral, Numeral.ofInt, whole, exponentValue, List.append_nil, hvalue]
    rfl

/-- A whole number that is written out is read again, if it is in the range of decimals. -/
theorem ofText_toString_eq (number : ℤ) :
    Decimal.ofText (toString number) =
      if inRange (.ofInt number) then .ok (.finite (.ofInt number)) else .error .invalid := by
  obtain ⟨literal, hletters, hnumeral⟩ := exists_literal_toString number
  rw [hletters, literal.ofText_letters, hnumeral]

theorem ofText_toString {number : ℤ} (hrange : inRange (.ofInt number) = true) :
    Decimal.ofText (toString number) = .ok (.finite (.ofInt number)) := by
  rw [ofText_toString_eq, if_pos hrange]

/-- A whole number of few digits is in the range of decimals. -/
theorem inRange_ofInt {number : ℤ} {digits : ℕ} (hnumber : number.natAbs < 10 ^ digits)
    (hdigits : digits ≤ longestInteger) : inRange (.ofInt number) = true := by
  have hcount : digitCount number.natAbs ≤ longestInteger := by
    by_cases hzero : number.natAbs = 0
    · rw [hzero, digitCount_zero]
      decide
    · have hlt : 10 ^ (digitCount number.natAbs - 1) < 10 ^ digits :=
        (pow_le_of_digitCount hzero).trans_lt hnumber
      have hexponents := (Nat.pow_lt_pow_iff_right (by norm_num)).mp hlt
      omega
  have hlongest : (longestInteger : ℤ) - 1 ≤ highestAdjusted := by decide
  have htop : (if (Numeral.ofInt number).isZero then (Numeral.ofInt number).exponent
      else (Numeral.ofInt number).adjusted) ≤ highestAdjusted := by
    have hexponent : (Numeral.ofInt number).exponent = 0 := rfl
    split
    · rw [hexponent]
      decide
    · simp only [Numeral.adjusted, Numeral.ofInt]
      omega
  have hbottom : lowestExponent ≤ (Numeral.ofInt number).exponent :=
    show lowestExponent ≤ 0 by decide
  simp only [inRange, htop, hbottom, decide_true, Bool.and_self]

/-! ## Reading -/

/-- The number can be read: it has no needless zeros, and it is within the limits of its form. -/
structure Readable : Prop where
  others_eq_nil : literal.first = 0 → literal.others = []
  inRange_of_isFraction : literal.isFraction = true → inRange literal.numeral = true
  length_le_of_whole : literal.isFraction = false → literal.whole.length ≤ longestInteger

/-- What a document with the number holds: a decimal or a whole number. -/
def content : Json :=
  if literal.isFraction then .decimal (.finite literal.numeral) else .integer literal.wholeNumber

end Literal

/-- A text that does not go on with a letter of numbers. -/
def EndsNumber (rest : List Letter) : Prop :=
  ∀ letter, rest.head? = some (.character letter) → isNumberLetter letter = false

theorem numberFront_append {word : List Char} (hword : ∀ letter ∈ word, letter ∈ numberAlphabet)
    {rest : List Letter} (hrest : EndsNumber rest) :
    numberFront (word.map .character ++ rest) = word := by
  have halphabet : ∀ letter ∈ numberAlphabet, isNumberLetter letter = true :=
    List.all_eq_true.mp (by decide)
  induction word with
  | nil =>
      cases rest with
      | nil => rfl
      | cons letter others =>
          cases letter with
          | half code => rfl
          | character letter => simp [numberFront, hrest letter rfl]
  | cons letter others ih =>
      have hothers := ih fun other hother => hword other (List.mem_cons_of_mem _ hother)
      simp [numberFront, halphabet letter (hword letter List.mem_cons_self), hothers]

/-- How decimals are read in the answers of providers. -/
def readExact (fraction : String) : Except Signal Json :=
  (Decimal.ofText fraction).map Json.decimal

/-- The decoder reads a number up to its end. -/
theorem number_literal {literal : Literal} (hreadable : literal.Readable) (position : ℕ)
    {rest : List Letter} (hrest : EndsNumber rest) :
    number readExact position (literal.letters.map .character ++ rest) =
      .ok (literal.content, position + literal.letters.length, rest) := by
  have hfront := numberFront_append (fun _ => literal.mem_numberAlphabet) hrest
  have hsome : literal.letters.isEmpty = false := by
    simp [Literal.letters, Literal.unsignedLetters, Literal.whole]
  have hdrop : (literal.letters.map Letter.character ++ rest).drop literal.letters.length =
      rest := by
    rw [← List.length_map (f := Letter.character), List.drop_left]
  have hcontent : (if literal.isFraction
      then (readExact (String.ofList literal.letters)).mapError .number
      else integerOf literal.letters) = .ok literal.content := by
    unfold Literal.content
    split
    · rename_i hfraction
      rw [readExact, literal.ofText_literal (hreadable.inRange_of_isFraction hfraction)]
      rfl
    · rename_i hfraction
      have hwhole : literal.isFraction = false := by simpa using hfraction
      exact literal.integerOf_literal hwhole (hreadable.length_le_of_whole hwhole)
  unfold number
  simp only [hfront, literal.numberLetters_literal hreadable.others_eq_nil, hsome,
    Bool.false_eq_true, if_false, hcontent, hdrop]
  rfl

end PriceBoard.Json
