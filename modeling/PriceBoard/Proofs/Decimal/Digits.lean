import Mathlib.Algebra.Order.Ring.Nat
import Mathlib.Tactic.Linarith
import Mathlib.Tactic.NormNum
import Mathlib.Tactic.Ring
import PriceBoard.Decimal.Basic

/-!
# Counting digits

`digitCount` takes sixteen digits off at a time as long as there are more of them.  What it counts
is the same as if it went digit by digit: a number of `d` digits lies between `10 ^ (d - 1)` and
`10 ^ d`.
-/

namespace PriceBoard

@[simp] theorem tenPower_eq (exponent : ℕ) : tenPower exponent = 10 ^ exponent := rfl

theorem digitCount_pos (number : ℕ) : 0 < digitCount number := by
  unfold digitCount
  split_ifs <;> omega

@[simp] theorem digitCount_zero : digitCount 0 = 1 := by
  simp [digitCount]

theorem lt_pow_digitCount (number : ℕ) : number < 10 ^ digitCount number := by
  fun_induction digitCount number with
  | case1 number hsmall => simpa using hsmall
  | case2 number _ _ ih =>
      rw [pow_succ]
      omega
  | case3 number _ _ ih =>
      rw [pow_add]
      omega

theorem pow_le_of_digitCount {number : ℕ} (hnumber : number ≠ 0) :
    10 ^ (digitCount number - 1) ≤ number := by
  fun_induction digitCount number with
  | case1 number _ => simpa using Nat.one_le_iff_ne_zero.mpr hnumber
  | case2 number _ _ ih =>
      have hrest := ih (by omega)
      have hcount := digitCount_pos (number / 10)
      rw [show digitCount (number / 10) + 1 - 1 = digitCount (number / 10) - 1 + 1 by omega,
        pow_succ]
      omega
  | case3 number _ _ ih =>
      have hrest := ih (by omega)
      have hcount := digitCount_pos (number / 10000000000000000)
      rw [show digitCount (number / 10000000000000000) + 16 - 1 =
          digitCount (number / 10000000000000000) - 1 + 16 by omega, pow_add]
      omega

/-- A smaller number has no more digits. -/
theorem digitCount_mono {smaller larger : ℕ} (hle : smaller ≤ larger) :
    digitCount smaller ≤ digitCount larger := by
  rcases Nat.eq_zero_or_pos smaller with rfl | hpos
  · rw [digitCount_zero]
    exact digitCount_pos larger
  have hlower : 10 ^ (digitCount smaller - 1) ≤ smaller := pow_le_of_digitCount hpos.ne'
  have hupper : larger < 10 ^ digitCount larger := lt_pow_digitCount larger
  have hexponents : digitCount smaller - 1 < digitCount larger :=
    (Nat.pow_lt_pow_iff_right (by norm_num)).mp (hlower.trans_lt (hle.trans_lt hupper))
  omega

end PriceBoard
