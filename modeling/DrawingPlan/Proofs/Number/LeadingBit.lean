import Mathlib

set_option autoImplicit false

namespace DrawingPlan.Number

theorem log2_div_two_pow {m k : Nat} (positive : m / 2 ^ k ≠ 0) :
    (m / 2 ^ k).log2 + k = m.log2 := by
  have reaches : 2 ^ k ≤ m := Nat.le_of_not_lt fun less => positive (Nat.div_eq_of_lt less)
  have nonzero : m ≠ 0 := Nat.ne_of_gt (Nat.lt_of_lt_of_le (Nat.two_pow_pos k) reaches)
  have bits : k ≤ m.log2 := (Nat.le_log2 nonzero).mpr reaches
  simp only [Nat.log2_eq_log_two, Nat.log_div_base_pow] at bits ⊢
  omega

theorem log2_lt_of_div_two_pow {m k : Nat} (positive : m ≠ 0) (gone : m / 2 ^ k = 0) :
    m.log2 < k :=
  (Nat.log2_lt positive).mpr ((Nat.div_eq_zero_iff_lt (Nat.two_pow_pos k)).mp gone)

theorem log2_shiftLeft {m : Nat} (positive : m ≠ 0) (k : Nat) : (m <<< k).log2 = m.log2 + k := by
  rw [Nat.shiftLeft_eq]
  have whole : m * 2 ^ k / 2 ^ k = m := Nat.mul_div_cancel m (Nat.two_pow_pos k)
  have := log2_div_two_pow (m := m * 2 ^ k) (k := k) (by rwa [whole])
  rw [whole] at this
  exact this.symm

theorem log2_le_of_le {m n : Nat} (atMost : m ≤ n) : m.log2 ≤ n.log2 := by
  simpa only [Nat.log2_eq_log_two] using Nat.log_mono_right atMost

theorem log2_succ_le (m : Nat) : (m + 1).log2 ≤ m.log2 + 1 := by
  have small : m + 1 < 2 ^ (m.log2 + 2) := by
    have : m < 2 ^ (m.log2 + 1) := Nat.lt_log2_self
    rw [Nat.pow_succ]
    omega
  have : (m + 1).log2 < m.log2 + 2 := (Nat.log2_lt (Nat.add_one_ne_zero m)).mpr small
  omega

theorem log2_mul_le {m n : Nat} (positive : m * n ≠ 0) :
    (m * n).log2 ≤ m.log2 + n.log2 + 1 := by
  have small : m * n < 2 ^ (m.log2 + 1) * 2 ^ (n.log2 + 1) :=
    Nat.mul_lt_mul'' Nat.lt_log2_self Nat.lt_log2_self
  rw [← Nat.pow_add] at small
  have := (Nat.log2_lt positive).mpr small
  omega

theorem log2_div_le {m n : Nat} (positive : m / n ≠ 0) : (m / n).log2 + n.log2 ≤ m.log2 := by
  have divisor : n ≠ 0 := by
    rintro rfl
    simp at positive
  have nonzero : m ≠ 0 := by
    rintro rfl
    simp at positive
  rw [Nat.le_log2 nonzero, Nat.pow_add]
  calc 2 ^ (m / n).log2 * 2 ^ n.log2
      ≤ m / n * n := Nat.mul_le_mul (Nat.log2_self_le positive) (Nat.log2_self_le divisor)
    _ ≤ m := Nat.div_mul_le_self m n

theorem log2_add_le (m n : Nat) : (m + n).log2 ≤ max m.log2 n.log2 + 1 := by
  have double : ∀ k : Nat, (k + k).log2 ≤ k.log2 + 1 := fun k => by
    by_cases zero : k = 0
    · simp [zero]
    · have := log2_shiftLeft zero 1
      rw [Nat.shiftLeft_eq, Nat.pow_one, Nat.mul_two] at this
      omega
  rcases Nat.le_total m n with less | less
  · have := log2_le_of_le (Nat.add_le_add_right less n)
    have := double n
    omega
  · have := log2_le_of_le (Nat.add_le_add_left less m)
    have := double m
    omega

theorem shiftLeft_full {n : Nat} (positive : n ≠ 0) (bits : n.log2 < 52) :
    2 ^ 52 ≤ n <<< (52 - n.log2) ∧ n <<< (52 - n.log2) < 2 ^ 53 := by
  have full : (n <<< (52 - n.log2)).log2 = 52 := by
    rw [log2_shiftLeft positive]
    omega
  refine (Nat.log2_eq_iff fun zero => ?_).mp full
  rw [zero, Nat.log2_zero] at full
  cases full

theorem log2_lt_of_bits {n : Nat} (width : n ≠ 0) (bits : BitVec n) : bits.toNat.log2 < n := by
  by_cases zero : bits.toNat = 0
  · rw [zero, Nat.log2_zero]
    omega
  · exact (Nat.log2_lt zero).mpr bits.isLt

theorem log2_one_append (fraction : BitVec 52) : (1#1 ++ fraction).toNat.log2 = 52 := by
  have sum : (1#1 ++ fraction).toNat = 2 ^ 52 + fraction.toNat := by
    rw [BitVec.toNat_append, ← Nat.shiftLeft_add_eq_or_of_lt fraction.isLt]
    rfl
  have := fraction.isLt
  rw [Nat.log2_eq_iff (by omega)]
  omega

end DrawingPlan.Number
