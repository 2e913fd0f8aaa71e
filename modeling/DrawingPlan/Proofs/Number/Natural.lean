import DrawingPlan.Number.Decimal
import DrawingPlan.Proofs.Number.Size

set_option autoImplicit false

namespace DrawingPlan.Number

open Float.Model

theorem roundDiv_one (n : Nat) : roundDiv n 1 = n := by
  simp [roundDiv, Nat.mod_one]

theorem twoTo_eq (n : Nat) : twoTo n = 2 ^ n := rfl

theorem fullExponent_one {n : Nat} (positive : n ≠ 0) : fullExponent n 1 = n.log2 - 52 := by
  have one : Nat.log2 1 = 0 := by decide
  have whole : 2 ^ n.log2 ≤ n := Nat.log2_self_le positive
  simp [fullExponent, scaledRatio, twoTo_eq, one, whole]

theorem nearestBits_one {n : Nat} (positive : n ≠ 0) (small : n < 2 ^ 52) :
    nearestBits n 1 = (n.log2 + 1022) * 2 ^ 52 + n <<< (52 - n.log2) := by
  have bits : n.log2 < 52 := (Nat.log2_lt positive).mpr small
  have ⟨_, top⟩ := shiftLeft_full positive bits
  have unit : unitExponent n 1 = n.log2 - 52 := by
    simp only [unitExponent, fullExponent_one positive]
    omega
  have up : (-((n.log2 : Int) - 52)).toNat = 52 - n.log2 := by omega
  have down : (- -((n.log2 : Int) - 52)).toNat = 0 := by omega
  have steps : ((n.log2 : Int) - 52 + 1074).toNat = n.log2 + 1022 := by omega
  simp only [nearestBits, positive, unit, scaledRatio, twoTo_eq, up, down, steps, Nat.pow_zero,
    Nat.mul_one, roundDiv_one, if_false, ← Nat.shiftLeft_eq n]
  omega

theorem biasedExponent_nearestBits {n : Nat} (positive : n ≠ 0) (small : n < 2 ^ 52) :
    biasedExponent (UInt64.ofNat (nearestBits n 1)).toBitVec = n.log2 + 1023 := by
  have bits : n.log2 < 52 := (Nat.log2_lt positive).mpr small
  have ⟨bottom, top⟩ := shiftLeft_full positive bits
  have whole : (UInt64.ofNat (nearestBits n 1)).toBitVec.toNat =
      (n.log2 + 1022) * 2 ^ 52 + n <<< (52 - n.log2) := by
    rw [nearestBits_one positive small]
    simp only [UInt64.toBitVec_ofNat', BitVec.toNat_ofNat]
    omega
  -- The leading bit of the mantissa carries one more into the exponent field.
  rw [biasedExponent_eq, whole]
  omega

theorem ofNat_eq (n : Nat) :
    (Scalar.ofNat n : Float) = Float.ofBits (UInt64.ofNat (nearestBits n 1)) := by
  have unfolded : (Scalar.ofNat n : Float) = nearest false n 1 := by
    unfold Scalar.ofNat
    rfl
  rw [unfolded]
  simp only [nearest, Bool.false_eq_true, if_false]

theorem toModel_ofBits (bits : UInt64) :
    (Float.ofBits bits).toModel =
      Float.Model.pack (UnpackedFloat.unpack .binary64 bits.toBitVec) := rfl

theorem leads_ofNat {n : Nat} (positive : n ≠ 0) (small : n < 2 ^ 52) :
    Leads (n.log2 + 1) (Scalar.ofNat n : Float).toModel.unpack := by
  have bits : n.log2 < 52 := (Nat.log2_lt positive).mpr small
  have field := biasedExponent_nearestBits positive small
  rw [ofNat_eq, toModel_ofBits]
  refine leads_pack (by omega) (by omega) ?_
  have leads : Leads (biasedExponent (UInt64.ofNat (nearestBits n 1)).toBitVec - 1022)
      (UnpackedFloat.unpack .binary64 (UInt64.ofNat (nearestBits n 1)).toBitVec) :=
    leads_unpack (by omega) (by omega)
  have place : ((n.log2 + 1023 : Nat) : Int) - 1022 = n.log2 + 1 := by omega
  rwa [field, place] at leads

theorem below_ofNat {n bound : Nat} (small : n < 2 ^ bound) (few : bound ≤ 52) :
    Below bound (Scalar.ofNat n) := by
  -- Zero has no leading bit.
  by_cases zero : n = 0
  · subst zero
    exact (show Below 0 (Scalar.ofNat 0) by decide +kernel).mono (by omega)
  · have bits : n.log2 < bound := (Nat.log2_lt zero).mpr small
    have inRange : n < 2 ^ 52 := Nat.lt_of_lt_of_le small (Nat.pow_le_pow_right (by decide) few)
    exact ((leads_ofNat zero inRange).within (by omega)).mono (by omega)

theorem toBits_ofBits {bits : UInt64} (inRange : biasedExponent bits.toBitVec ≤ 2046) :
    (Float.ofBits bits).toBits = bits := by
  have number : ¬@UnpackedFloat.isNaNBits .binary64 bits.toBitVec = true := by
    intro nan
    have top : @UnpackedFloat.unpackExponent .binary64 bits.toBitVec = -1#11 :=
      (of_decide_eq_true nan).1
    have : biasedExponent bits.toBitVec = 2047 := congrArg BitVec.toNat top
    omega
  have kept := @UnpackedFloat.pack_unpack .binary64 bits.toBitVec (by decide)
  rw [if_neg number] at kept
  exact UInt64.toBitVec_inj.mp kept

theorem parts_ofNat {n : Nat} (positive : n ≠ 0) (small : n < 2 ^ 52) :
    Parts.ofFloat (Scalar.ofNat n) = .finite false (n <<< (52 - n.log2)) (n.log2 - 52) := by
  have bits : n.log2 < 52 := (Nat.log2_lt positive).mpr small
  have ⟨bottom, top⟩ := shiftLeft_full positive bits
  have field := biasedExponent_nearestBits positive small
  rw [ofNat_eq, Parts.ofFloat, toBits_ofBits (by omega), UInt64.toNat_ofNat',
    nearestBits_one positive small]
  generalize n <<< (52 - n.log2) = mantissa at bottom top ⊢
  have whole : ((n.log2 + 1022) * 2 ^ 52 + mantissa) % 2 ^ 64 =
      (n.log2 + 1023) * 2 ^ 52 + (mantissa - 2 ^ 52) := by omega
  have sign : ((n.log2 + 1023) * 2 ^ 52 + (mantissa - 2 ^ 52)) / 2 ^ 63 % 2 = 0 := by omega
  have exponent : ((n.log2 + 1023) * 2 ^ 52 + (mantissa - 2 ^ 52)) / 2 ^ 52 % 2 ^ 11 =
      n.log2 + 1023 := by omega
  have fraction : ((n.log2 + 1023) * 2 ^ 52 + (mantissa - 2 ^ 52)) % 2 ^ 52 + 2 ^ 52 =
      mantissa := by omega
  have normal : n.log2 + 1023 ≠ 0x7FF ∧ n.log2 + 1023 ≠ 0 := by omega
  have place : ((n.log2 + 1023 : Nat) : Int) - 1075 = n.log2 - 52 := by omega
  rw [whole]
  simp only [Parts.ofBits, twoTo_eq, sign, exponent, fraction, normal, place, if_false]
  rfl

theorem truncate?_ofNat {n : Nat} (positive : n ≠ 0) (small : n < 2 ^ 52) :
    truncate? (Scalar.ofNat n) = some (n : Int) := by
  have bits : n.log2 < 52 := (Nat.log2_lt positive).mpr small
  have up : ((n.log2 : Int) - 52).toNat = 0 := by omega
  have down : (-((n.log2 : Int) - 52)).toNat = 52 - n.log2 := by omega
  simp only [truncate?, parts_ofNat positive small, up, down, twoTo_eq, Nat.shiftLeft_eq]
  simp

theorem toFloat_ofInt {n : Nat} (small : n < 2 ^ 52) :
    (Decimal.ofInt n).toFloat = Scalar.ofNat n := by
  have few : (Nat.toDigits 10 n).length ≤ 310 :=
    (Nat.length_toDigits_le_iff (by decide) (by decide)).mpr
      (Nat.lt_of_lt_of_le small (by decide +kernel))
  have signless : ¬(n : Int) < 0 := by omega
  simp only [Decimal.ofInt, Decimal.toFloat, largestDecade, smallestDecade, signless,
    Int.natAbs_natCast]
  split
  next zero =>
    rw [zero]
    rfl
  next =>
    have one : tenTo 0 = 1 := rfl
    rw [if_neg (by omega), if_neg (by omega)]
    simp only [Int.neg_zero, Int.toNat_zero, one, Nat.mul_one, decide_false]
    rfl

end DrawingPlan.Number
