import Mathlib.Tactic.Ring
import TableBench.Number.Binary

namespace TableBench.Number

theorem roundHalfEven_mul_le (n d : Nat) : 2 * (roundHalfEven n d * d) ≤ 2 * n + d := by
  have hn := Nat.div_add_mod' n d
  rw [roundHalfEven]
  split
  · next h =>
    have hr : d ≤ 2 * (n % d) := by
      simp only [Bool.or_eq_true, Bool.and_eq_true, decide_eq_true_eq, beq_iff_eq] at h
      omega
    rw [Nat.add_mul, Nat.one_mul]
    omega
  · omega

theorem roundToBits_le (bits n : Nat) : 2 ^ bits * roundToBits bits n ≤ (2 ^ bits + 1) * n := by
  rw [roundToBits, Nat.pow_eq]
  split
  · exact Nat.mul_le_mul_right n (Nat.le_succ _)
  · next h =>
    have hn : n ≠ 0 := by
      rintro rfl
      exact h (Nat.two_pow_pos bits)
    have hbits : bits ≤ n.log2 := (Nat.le_log2 hn).2 (Nat.le_of_not_lt h)
    dsimp only
    rw [Nat.pow_eq]
    have hround := roundHalfEven_mul_le n (2 ^ (n.log2 + 1 - bits))
    -- a unit of the last digit, taken as often as there are parts, is at most twice the number
    have hunit : 2 ^ bits * 2 ^ (n.log2 + 1 - bits) ≤ 2 * n := by
      rw [← Nat.pow_add, Nat.add_sub_cancel' (Nat.le_succ_of_le hbits), Nat.pow_succ']
      exact Nat.mul_le_mul_left 2 (Nat.log2_self_le hn)
    have hscaled := Nat.mul_le_mul_left (2 ^ bits) hround
    rw [Nat.mul_add] at hscaled
    generalize roundHalfEven n _ * _ = m at hscaled
    have h2 : 2 * (2 ^ bits * m) ≤ 2 * ((2 ^ bits + 1) * n) := by
      calc 2 * (2 ^ bits * m) = 2 ^ bits * (2 * m) := Nat.mul_left_comm 2 _ m
        _ ≤ 2 ^ bits * (2 * n) + 2 * n := Nat.le_trans hscaled (Nat.add_le_add_left hunit _)
        _ = 2 * ((2 ^ bits + 1) * n) := by ring
    exact Nat.le_of_mul_le_mul_left h2 Nat.two_pos

/-- A fraction of `bits` digits is below one, and so is what it selects of `k` below `k`, although
the product is rounded before its whole part is taken. -/
theorem roundToBits_mul_div_lt {bits f k : Nat} (hf : f < 2 ^ bits) (hk : 0 < k) :
    roundToBits bits (f * k) / 2 ^ bits < k := by
  have hpos : 0 < 2 ^ bits := Nat.two_pow_pos bits
  rw [Nat.div_lt_iff_lt_mul hpos]
  have hround := roundToBits_le bits (f * k)
  have hfraction : (2 ^ bits + 1) * f < 2 ^ bits * 2 ^ bits := by
    calc (2 ^ bits + 1) * f = 2 ^ bits * f + f := by ring
      _ < 2 ^ bits * f + 2 ^ bits := Nat.add_lt_add_left hf _
      _ = 2 ^ bits * (f + 1) := by ring
      _ ≤ 2 ^ bits * 2 ^ bits := Nat.mul_le_mul_left _ hf
  have hlt : 2 ^ bits * roundToBits bits (f * k) < 2 ^ bits * (k * 2 ^ bits) := by
    calc 2 ^ bits * roundToBits bits (f * k) ≤ (2 ^ bits + 1) * (f * k) := hround
      _ = (2 ^ bits + 1) * f * k := by ring
      _ < 2 ^ bits * 2 ^ bits * k := Nat.mul_lt_mul_of_pos_right hfraction hk
      _ = 2 ^ bits * (k * 2 ^ bits) := by ring
  exact Nat.lt_of_mul_lt_mul_left hlt

end TableBench.Number
