import Mathlib.Data.List.Basic
import PriceBoard.Text.Encoding

/-!
# Texts that arrive as they are sent

How a text is encoded is found out from zeros among its first bytes.  A text whose first two
characters take one byte each and are no zeros is taken for one that is encoded as agreed:
`decode?_of_front`.
-/

namespace PriceBoard.Text

/-- The bytes from a position on are put behind those found so far. -/
theorem loop_eq (bytes : ByteArray) (position : ℕ) (found : List UInt8) :
    ByteArray.toList.loop bytes position found =
      found.reverse ++ bytes.data.toList.drop position := by
  fun_induction ByteArray.toList.loop bytes position found with
  | case1 position found hposition ih =>
      have hlength : position < bytes.data.toList.length := by simpa using hposition
      have hbyte : bytes.get! position = bytes.data.toList[position] := by
        simp [ByteArray.get!, hposition]
      rw [ih, List.drop_eq_getElem_cons hlength, hbyte, List.reverse_cons, List.append_assoc,
        List.singleton_append]
  | case2 position found hposition =>
      have hlength : bytes.data.toList.length ≤ position := by
        simpa using Nat.le_of_not_lt hposition
      rw [List.drop_eq_nil_of_le hlength, List.append_nil]

theorem toList_toUTF8 (text : String) :
    text.toUTF8.toList = text.toList.flatMap String.utf8EncodeChar := by
  have hbytes : text.toUTF8 = text.toList.utf8Encode := by
    rw [String.toUTF8_eq_toByteArray, ← String.toByteArray_ofList, String.ofList_toList]
  rw [hbytes, ByteArray.toList, loop_eq]
  simp [List.utf8Encode]

/-- A character of ASCII but the zero. -/
def IsAsciiMark (letter : Char) : Prop :=
  0 < letter.toNat ∧ letter.toNat < 0x80

instance (letter : Char) : Decidable (IsAsciiMark letter) :=
  inferInstanceAs (Decidable (_ ∧ _))

theorem utf8EncodeChar_of_ascii {letter : Char} (hletter : IsAsciiMark letter) :
    (String.utf8EncodeChar letter).map UInt8.toNat = [letter.toNat] := by
  have hlow : letter.val.toNat ≤ 127 := Nat.lt_succ_iff.mp hletter.2
  have hbyte : letter.val.toNat % 2 ^ 8 = letter.val.toNat := Nat.mod_eq_of_lt (by omega)
  simp only [String.utf8EncodeChar, hlow, if_true, List.map_cons, List.map_nil, UInt8.toNat_ofNat',
    hbyte]
  rfl

theorem decode?_of_front {text : String} {first second : Char} {others : List Char}
    (htext : text.toList = first :: second :: others) (hfirst : IsAsciiMark first)
    (hsecond : IsAsciiMark second) : decode? text = some (text.toList.map .character) := by
  have hmark : first ≠ '\uFEFF' := by
    rintro rfl
    exact absurd hfirst.2 (by decide)
  have hbytes : text.toUTF8.toList.map UInt8.toNat = first.toNat :: second.toNat ::
      (others.flatMap String.utf8EncodeChar).map UInt8.toNat := by
    rw [toList_toUTF8, htext, List.flatMap_cons, List.flatMap_cons, List.map_append,
      List.map_append, utf8EncodeChar_of_ascii hfirst, utf8EncodeChar_of_ascii hsecond]
    rfl
  have hencoding : ∀ behind : List ℕ,
      Encoding.ofBytes (first.toNat :: second.toNat :: behind) = .bytes := by
    intro behind
    have hfirstNe : first.toNat ≠ 0 := Nat.ne_of_gt hfirst.1
    have hsecondNe : second.toNat ≠ 0 := Nat.ne_of_gt hsecond.1
    rcases behind with _ | ⟨third, _ | ⟨fourth, more⟩⟩ <;>
      simp [Encoding.ofBytes, hfirstNe, hsecondNe]
  unfold decode?
  rw [hbytes, htext]
  split
  · rename_i hfront
    exact absurd (List.cons.inj hfront).1 hmark
  · simp only [hencoding]

end PriceBoard.Text
