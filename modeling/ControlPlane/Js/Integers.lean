/-
ControlPlane/Js/Integers.lean

Natural numbers as doubles.

Up to `2 ^ 53` a natural number is a double (`toDouble_of_lt`), and from there on its double is
no smaller than `2 ^ 53` (`le_toDouble`), so that a safe integer is the number that was written.
-/
import ControlPlane.Js.Text
import Mathlib.Tactic.Linarith
import Mathlib.Tactic.FieldSimp
import Mathlib.Tactic.Positivity

namespace Js

section Doubles

variable {n : ℕ} {q r : ℚ} {e : ℤ}

/-- A double is an integer at least as large as its floor. -/
theorem floor_le_roundHalfEven (r : ℚ) : ⌊r⌋ ≤ roundHalfEven r := by
  rw [roundHalfEven]
  split_ifs
  · exact le_rfl
  · exact Int.le_add_one le_rfl
  · exact le_rfl
  · exact Int.le_add_one le_rfl

theorem roundHalfEven_natCast (m : ℕ) : roundHalfEven (m : ℚ) = m := by
  rw [roundHalfEven, Int.floor_natCast, if_pos]
  norm_num

theorem twoPow_of_nonpos (h : e ≤ 0) : twoPow e = 1 / 2 ^ (-e).toNat := by
  rw [twoPow]
  split_ifs with h'
  · obtain rfl : e = 0 := le_antisymm h h'
    norm_num
  · rfl

theorem log_lt_of_lt (hpos : 0 < n) (h : n < 2 ^ 53) : Int.log 2 (n : ℚ) ≤ 52 := by
  rw [Int.log_natCast]
  have hlog : Nat.log 2 n < 53 := Nat.log_lt_of_lt_pow (Nat.pos_iff_ne_zero.mp hpos) h
  omega

/-- **A natural number below `2 ^ 53` is its double.** -/
theorem toDouble_of_lt (h : n < 2 ^ 53) : toDouble n = .finite n := by
  rcases Nat.eq_zero_or_pos n with rfl | hpos
  · rw [Nat.cast_zero, toDouble, if_pos rfl]
  have hne : (n : ℚ) ≠ 0 := Nat.cast_ne_zero.mpr (Nat.pos_iff_ne_zero.mp hpos)
  rw [toDouble, if_neg hne]
  dsimp only
  have hlog := log_lt_of_lt hpos h
  generalize he : max (Int.log 2 (n : ℚ) - 52) (-1074) = e
  have he' : e ≤ 0 := by
    rw [← he]
    exact max_le (by omega) (by decide)
  have hquotient : (n : ℚ) / twoPow e = ((n * 2 ^ (-e).toNat : ℕ) : ℚ) := by
    rw [twoPow_of_nonpos he']
    push_cast
    field_simp
  have hv : (roundHalfEven ((n : ℚ) / twoPow e) : ℚ) * twoPow e = n := by
    rw [hquotient, roundHalfEven_natCast, twoPow_of_nonpos he']
    push_cast
    field_simp
  have hn : (n : ℚ) < 2 ^ 53 := by exact_mod_cast h
  have hlarge : (2 : ℚ) ^ 53 ≤ 2 ^ 1024 := pow_le_pow_right₀ (by norm_num) (by norm_num)
  rw [hv, if_neg (not_le.mpr (lt_of_lt_of_le hn hlarge))]

/-- **From `2 ^ 53` on, a double is no smaller.** -/
theorem le_toDouble (h : 2 ^ 53 ≤ n) (hq : toDouble n = .finite q) : 2 ^ 53 ≤ q := by
  have hpos : 0 < n := lt_of_lt_of_le (by norm_num) h
  have hne : (n : ℚ) ≠ 0 := Nat.cast_ne_zero.mpr (Nat.pos_iff_ne_zero.mp hpos)
  rw [toDouble, if_neg hne] at hq
  dsimp only at hq
  -- the quotient has 53 digits, and the unit is at least two
  have hlog : 53 ≤ Nat.log 2 n := Nat.le_log_of_pow_le (by norm_num) h
  obtain ⟨k, hk⟩ : ∃ k, Nat.log 2 n = 52 + (k + 1) := ⟨Nat.log 2 n - 53, by omega⟩
  have he : max (Int.log 2 (n : ℚ) - 52) (-1074) = ((k + 1 : ℕ) : ℤ) := by
    rw [Int.log_natCast, hk]
    omega
  have hunit : twoPow ((k + 1 : ℕ) : ℤ) = 2 ^ (k + 1) := by
    rw [twoPow, if_pos (Int.natCast_nonneg _), Int.toNat_natCast]
  rw [he, hunit] at hq
  have hpow : (2 : ℚ) ^ 52 * 2 ^ (k + 1) ≤ n := by
    rw [← pow_add, ← hk]
    exact_mod_cast Nat.pow_log_le_self 2 (Nat.pos_iff_ne_zero.mp hpos)
  have hquotient : ((2 ^ 52 : ℤ) : ℚ) ≤ (n : ℚ) / 2 ^ (k + 1) := by
    rw [le_div_iff₀ (by positivity)]
    push_cast
    exact hpow
  have hround : (2 : ℚ) ^ 52 ≤ (roundHalfEven ((n : ℚ) / 2 ^ (k + 1)) : ℚ) := by
    have hfloor := (Int.le_floor.mpr hquotient).trans (floor_le_roundHalfEven _)
    exact_mod_cast hfloor
  have htwo : (2 : ℚ) ≤ 2 ^ (k + 1) := by
    rw [pow_succ]
    have hone : (1 : ℚ) ≤ 2 ^ k := one_le_pow₀ (by norm_num)
    linarith
  split_ifs at hq with hlarge
  obtain rfl := Numeric.finite.inj hq
  calc (2 : ℚ) ^ 53 = 2 ^ 52 * 2 := by norm_num
    _ ≤ _ := mul_le_mul hround htwo (by norm_num) (le_trans (by positivity) hround)

end Doubles

end Js
