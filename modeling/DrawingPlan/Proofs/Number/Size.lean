import DrawingPlan.Number.Scalar
import DrawingPlan.Proofs.Number.LeadingBit

set_option autoImplicit false

namespace DrawingPlan.Number

open Float.Model Float.Model.UnpackedFloat

theorem minExponent_eq : Format.binary64.minExponent = -1074 := by decide

theorem mantissaBits_eq : Format.binary64.mantissaBits = 53 := by decide

theorem exponentBias_eq : Format.binary64.exponentBias = 1023 := by decide

theorem targetExponent_eq (place : Int) :
    Format.binary64.targetExponent place = max (place - 53) (-1074) := by
  simp [Format.targetExponent, minExponent_eq, mantissaBits_eq]

/--
Whether an unpacked float is finite and below `2 ^ bound`. The exponent of the unit is that of a
float in range, so that packing keeps it.
-/
def Within (bound : Int) : UnpackedFloat → Prop
  | .zero _ => True
  | .finite _ mantissa exponent _ => totalExponent mantissa exponent ≤ bound ∧ exponent ≤ 971
  | .infinity _ | .notANumber => False

instance (bound : Int) (x : UnpackedFloat) : Decidable (Within bound x) :=
  match x with
  | .zero _ => .isTrue trivial
  | .finite .. => inferInstanceAs (Decidable (_ ∧ _))
  | .infinity _ | .notANumber => .isFalse id

theorem Within.mono {a b : Int} (least : a ≤ b) :
    ∀ {x : UnpackedFloat}, Within a x → Within b x
  | .zero _, _ => trivial
  | .finite .., ⟨small, inRange⟩ => ⟨Int.le_trans small least, inRange⟩

theorem mantissa_shiftRight (em : ExtendedMantissa) (n : Nat) :
    (em >>> n).mantissa = em.mantissa / 2 ^ n := by
  induction n with
  | zero => simp [HShiftRight.hShiftRight, Nat.repeat]
  | succ n ih =>
    have : (em >>> (n + 1)).mantissa = (em >>> n).mantissa / 2 := rfl
    rw [this, ih, Nat.div_div_eq_div_mul, Nat.pow_succ]

theorem roundedMantissa_le (em : ExtendedMantissa) : em.roundedMantissa ≤ em.mantissa + 1 := by
  obtain ⟨mantissa, round, sticky⟩ := em
  cases round <;> cases sticky <;>
    simp [ExtendedMantissa.roundedMantissa, ExtendedMantissa.accuracy,
      Accuracy.roundToNearestEven]
  omega

theorem mantissa_shiftToTargetExponent (m : Nat) (e : Int) (accuracy : Accuracy) :
    (shiftToTargetExponent .binary64 m e accuracy).1.mantissa =
      m / 2 ^ (max (totalExponent m e - 53) (-1074) - e).toNat := by
  simp only [shiftToTargetExponent, shiftToExponent, mantissa_shiftRight, targetExponent_eq]
  congr 1
  match accuracy with
  | .exact | .inexact .lt | .inexact .eq | .inexact .gt => rfl

theorem exponent_shiftToTargetExponent (m : Nat) (e : Int) (accuracy : Accuracy) :
    (shiftToTargetExponent .binary64 m e accuracy).2 =
      max e (max (totalExponent m e - 53) (-1074)) := by
  simp only [shiftToTargetExponent, shiftToExponent, targetExponent_eq]
  omega

theorem totalExponent_rounded_le {bound : Int} (low : -1023 ≤ bound) {m : Nat} {e : Int}
    (accuracy : Accuracy) (small : totalExponent m e ≤ bound) :
    totalExponent (shiftToTargetExponent .binary64 m e accuracy).1.roundedMantissa
      (shiftToTargetExponent .binary64 m e accuracy).2 ≤ bound + 1 := by
  rw [exponent_shiftToTargetExponent]
  have cut := mantissa_shiftToTargetExponent m e accuracy
  generalize (shiftToTargetExponent .binary64 m e accuracy).1 = em at cut ⊢
  have few := log2_le_of_le (roundedMantissa_le em)
  simp only [totalExponent] at small cut ⊢
  by_cases nothing : em.mantissa = 0
  -- The whole mantissa is cut off, and what is left is the bit that rounding sets.
  · rw [nothing, Nat.zero_add, show Nat.log2 1 = 0 by decide] at few
    by_cases empty : m = 0
    · simp only [empty, Nat.log2_zero] at small ⊢
      omega
    · have := log2_lt_of_div_two_pow empty (cut.symm.trans nothing)
      omega
  · have next := log2_succ_le em.mantissa
    have := log2_div_two_pow (cut ▸ nothing)
    rw [← cut] at this
    omega

theorem within_roundWithAccuracy {bound : Int} (low : -1023 ≤ bound) (high : bound ≤ 1023)
    (sign : Sign) {m : Nat} {e : Int} (accuracy : Accuracy)
    (small : totalExponent m e ≤ bound) (inRange : e ≤ 971) :
    Within (bound + 1) (roundWithAccuracy .binary64 sign m e accuracy) := by
  have rounded := totalExponent_rounded_le low accuracy small
  have place := exponent_shiftToTargetExponent m e accuracy
  unfold roundWithAccuracy
  generalize shiftToTargetExponent .binary64 m e accuracy = first at rounded place ⊢
  obtain ⟨em, unit⟩ := first
  simp only [mantissa_shiftToTargetExponent, exponent_shiftToTargetExponent]
  split
  · trivial
  · next present =>
    -- The second shift drops no bit but a carry, and leaves the leading bit where it is.
    have bits := log2_div_two_pow present
    simp only [Within, totalExponent] at small rounded place bits ⊢
    omega

def biasedExponent (bits : BitVec 64) : Nat :=
  (@unpackExponent .binary64 bits).toNat

theorem biasedExponent_eq (bits : BitVec 64) :
    biasedExponent bits = bits.toNat / 2 ^ 52 % 2 ^ 11 := by
  simp [biasedExponent, unpackExponent, Nat.shiftRight_eq_div_pow]

theorem biasedExponent_lt (bits : BitVec 64) : biasedExponent bits < 2048 :=
  (@unpackExponent .binary64 bits).isLt

theorem within_unpack {bits : BitVec 64} (inRange : biasedExponent bits ≤ 2046) :
    Within (biasedExponent bits - 1022) (UnpackedFloat.unpack .binary64 bits) := by
  unfold biasedExponent at inRange ⊢
  unfold UnpackedFloat.unpack
  simp only [exponentBias_eq]
  split
  · rename_i top
    rw [top] at inRange
    exact absurd inRange (by decide)
  · split
    · rename_i bottom
      split
      · trivial
      · have : (@unpackMantissa .binary64 bits).toNat.log2 < 52 :=
          log2_lt_of_bits (by decide) _
        simp only [Within, totalExponent, bottom, BitVec.toNat_ofNat]
        omega
    · have : (1#1 ++ @unpackMantissa .binary64 bits).toNat.log2 < 53 :=
        log2_lt_of_bits (by decide) _
      simp only [Within, totalExponent]
      omega

theorem unpack_pack (x : UnpackedFloat) :
    (Float.Model.pack x).unpack =
      UnpackedFloat.unpack .binary64 (UnpackedFloat.pack .binary64 x) := rfl

theorem within_pack {bound : Int} (normal : -1022 ≤ bound) {x : UnpackedFloat}
    (within : Within bound x) : Within bound (Float.Model.pack x).unpack := by
  rw [unpack_pack]
  suffices biasedExponent (UnpackedFloat.pack .binary64 x) ≤ 2046 ∧
      biasedExponent (UnpackedFloat.pack .binary64 x) - 1022 ≤ bound from
    (within_unpack this.1).mono this.2
  unfold biasedExponent
  match x with
  | .zero sign =>
    simp only [UnpackedFloat.pack, packedZero, unpackExponent_packComponents]
    exact ⟨by decide, normal⟩
  | .finite sign m e positive =>
    obtain ⟨small, inRange⟩ := within
    simp only [UnpackedFloat.pack, exponentBias_eq, mantissaBits_eq, totalExponent] at small ⊢
    split
    · omega
    · split
      · simp only [unpackExponent_packComponents, BitVec.toNat_ofNat]
        omega
      · simp only [unpackExponent_packComponents]
        exact ⟨by decide, normal⟩

def Leads (place : Int) : UnpackedFloat → Prop
  | .finite _ mantissa exponent _ => mantissa.log2 = 52 ∧ exponent = place - 53
  | _ => False

theorem Leads.within {place : Int} (high : place ≤ 1024) :
    ∀ {x : UnpackedFloat}, Leads place x → Within place x
  | .finite .., ⟨full, unit⟩ => by
    simp only [Within, totalExponent]
    omega

theorem leads_unpack {bits : BitVec 64} (normal : biasedExponent bits ≠ 0)
    (inRange : biasedExponent bits ≤ 2046) :
    Leads (biasedExponent bits - 1022) (UnpackedFloat.unpack .binary64 bits) := by
  have notTop : @unpackExponent .binary64 bits ≠ -1#11 := fun top => by
    have : biasedExponent bits = 2047 := congrArg BitVec.toNat top
    omega
  have notBottom : @unpackExponent .binary64 bits ≠ 0#11 := fun bottom =>
    normal (congrArg BitVec.toNat bottom)
  unfold UnpackedFloat.unpack
  simp only [notTop, notBottom, exponentBias_eq, if_false, Leads]
  refine ⟨log2_one_append _, ?_⟩
  unfold biasedExponent
  omega

theorem leads_pack {place : Int} (low : -1021 ≤ place) (high : place ≤ 1024) :
    ∀ {x : UnpackedFloat}, Leads place x → Leads place (Float.Model.pack x).unpack
  | .finite sign m e positive, ⟨full, unit⟩ => by
    have field : biasedExponent (UnpackedFloat.pack .binary64 (.finite sign m e positive)) =
        place + 1022 := by
      simp only [biasedExponent, UnpackedFloat.pack, exponentBias_eq, mantissaBits_eq, full]
      split
      · omega
      · simp only [if_true, unpackExponent_packComponents, BitVec.toNat_ofNat]
        omega
    have leads : Leads (biasedExponent (UnpackedFloat.pack .binary64 (.finite ..)) - 1022)
        (Float.Model.pack (.finite sign m e positive)).unpack :=
      leads_unpack (by omega) (by omega)
    rwa [field, Int.add_sub_cancel] at leads

def Below (bound : Int) (x : Float) : Prop :=
  Within bound x.toModel.unpack

instance (bound : Int) (x : Float) : Decidable (Below bound x) :=
  inferInstanceAs (Decidable (Within ..))

theorem Below.mono {a b : Int} (least : a ≤ b) {x : Float} (below : Below a x) : Below b x :=
  Within.mono least below

theorem Below.mul {a b : Int} (low : -1023 ≤ a + b) (high : a + b ≤ 1023)
    (inRange : b ≤ 1 ∨ a + b ≤ 973) {x y : Float} (left : Below a x) (right : Below b y) :
    Below (a + b + 1) (Float.mul x y) := by
  refine within_pack (by omega) ?_
  unfold Below at left right
  generalize x.toModel.unpack = u at left ⊢
  generalize y.toModel.unpack = v at right ⊢
  match u, v with
  | .zero _, .zero _ | .zero _, .finite .. | .finite .., .zero _ => trivial
  | .finite s m e positive, .finite t n f positive' =>
    obtain ⟨leading, unit⟩ := left
    obtain ⟨leading', unit'⟩ := right
    have := log2_mul_le (Nat.mul_ne_zero (Nat.ne_of_gt positive) (Nat.ne_of_gt positive'))
    unfold totalExponent at leading leading'
    refine within_roundWithAccuracy low high _ _ ?_ ?_
    · unfold totalExponent
      omega
    · omega

theorem Below.div {a b : Int} (low : -1023 ≤ a - b + 1) (high : a - b + 1 ≤ 1023)
    {x y : Float} (left : Below a x) (right : Leads b y.toModel.unpack) :
    Below (a - b + 2) (Float.div x y) := by
  refine within_pack (by omega) ?_
  unfold Below at left
  generalize x.toModel.unpack = u at left ⊢
  generalize y.toModel.unpack = v at right ⊢
  match u, v with
  | .zero _, .finite .. => trivial
  | .finite s m e positive, .finite t n f positive' =>
    obtain ⟨leading, inRange⟩ := left
    obtain ⟨full, unit⟩ := right
    unfold totalExponent at leading
    simp only [UnpackedFloat.div, divCore, targetExponent_eq, totalExponent,
      show a - b + 2 = a - b + 1 + 1 by omega]
    -- The unit is low enough for a full quotient, and no higher than that of the exact one.
    generalize shift : min (e - f) _ = unit
    refine within_roundWithAccuracy low high _ _ ?_ (by omega)
    generalize quotient : (m <<< (e - f - unit).toNat) / n = q
    unfold totalExponent
    by_cases nothing : q = 0
    · rw [nothing, Nat.log2_zero]
      omega
    · have := log2_div_le (quotient ▸ nothing)
      rw [quotient, log2_shiftLeft (Nat.ne_of_gt positive)] at this
      omega

theorem natAbs_apply (sign : Sign) (m : Nat) : (sign.apply m).natAbs = m := by
  cases sign <;> simp [Sign.apply]

theorem within_round {bound : Int} (low : -1023 ≤ bound) (high : bound ≤ 1023) (sign : Sign)
    {m : Nat} {e : Int} (positive : m ≠ 0) (small : totalExponent m e ≤ bound)
    (inRange : e ≤ 971) : Within (bound + 1) (UnpackedFloat.round .binary64 sign m e) := by
  simp only [UnpackedFloat.round, decreaseExponent]
  generalize (e - _).toNat = shift
  refine within_roundWithAccuracy low high _ _ ?_ (by omega)
  unfold totalExponent at small ⊢
  rw [log2_shiftLeft positive]
  omega

theorem within_normalize {bound : Int} (low : -1023 ≤ bound) (high : bound ≤ 1023) {n : Int}
    {e : Int} (zeroSign : Sign) (small : totalExponent n.natAbs e ≤ bound) (inRange : e ≤ 971) :
    Within (bound + 1) (UnpackedFloat.normalize .binary64 n e zeroSign) := by
  unfold UnpackedFloat.normalize
  split
  · rename_i negative
    rw [Int.compare_eq_lt] at negative
    have size : (-n).toNat = n.natAbs := by omega
    rw [size]
    exact within_round low high _ (by omega) small inRange
  · trivial
  · rename_i positive
    rw [Int.compare_eq_gt] at positive
    have size : n.toNat = n.natAbs := by omega
    rw [size]
    exact within_round low high _ (by omega) small inRange

theorem Below.add {a : Int} (low : -1023 ≤ a + 1) (high : a + 1 ≤ 1023) {x y : Float}
    (left : Below a x) (right : Below a y) : Below (a + 2) (Float.add x y) := by
  refine within_pack (by omega) ?_
  unfold Below at left right
  generalize x.toModel.unpack = u at left ⊢
  generalize y.toModel.unpack = v at right ⊢
  match u, v with
  | .zero s, .zero t =>
    simp only [UnpackedFloat.add]
    split <;> trivial
  | .zero _, .finite .. => exact Within.mono (by omega) right
  | .finite .., .zero _ => exact Within.mono (by omega) left
  | .finite s m e positive, .finite t n f positive' =>
    obtain ⟨leading, inRange⟩ := left
    obtain ⟨leading', inRange'⟩ := right
    unfold totalExponent at leading leading'
    -- Both mantissas move to the lower unit, which leaves their leading bits in place.
    simp only [UnpackedFloat.add, decreaseExponent, show a + 2 = a + 1 + 1 by omega]
    refine within_normalize low high _ ?_ (by omega)
    have sum := Int.natAbs_add_le (s.apply (m <<< (e - min e f).toNat))
      (t.apply (n <<< (f - min e f).toNat))
    rw [natAbs_apply, natAbs_apply] at sum
    have := Nat.le_trans (log2_le_of_le sum) (log2_add_le _ _)
    rw [log2_shiftLeft (Nat.ne_of_gt positive), log2_shiftLeft (Nat.ne_of_gt positive')] at this
    unfold totalExponent
    omega

theorem isFinite_iff_biasedExponent (x : Float) :
    isFinite x = true ↔ biasedExponent x.toBits.toBitVec ≤ 2046 := by
  have field : x.toBits.toNat / twoTo 52 % twoTo 11 = biasedExponent x.toBits.toBitVec :=
    (biasedExponent_eq _).symm
  have := biasedExponent_lt x.toBits.toBitVec
  simp only [isFinite, Parts.ofFloat, Parts.ofBits, field]
  by_cases top : biasedExponent x.toBits.toBitVec = 0x7FF
  · by_cases zero : x.toBits.toNat % twoTo 52 = 0 <;> simp [top, zero]
  · by_cases zero : biasedExponent x.toBits.toBitVec = 0
    · simp [zero]
    · simp [top, zero]
      omega

theorem biasedExponent_le_of_within {bound : Int} {bits : BitVec 64}
    (within : Within bound (UnpackedFloat.unpack .binary64 bits)) : biasedExponent bits ≤ 2046 := by
  refine Nat.le_of_not_lt fun top => ?_
  have := biasedExponent_lt bits
  have all : @unpackExponent .binary64 bits = -1#11 :=
    BitVec.eq_of_toNat_eq (show biasedExponent bits = 2047 by omega)
  unfold UnpackedFloat.unpack at within
  simp only [all, ↓reduceIte] at within
  split at within <;> exact within

theorem isFinite_iff (x : Float) : isFinite x = true ↔ Below 1024 x := by
  rw [isFinite_iff_biasedExponent]
  exact ⟨fun inRange => (within_unpack inRange).mono (by omega), biasedExponent_le_of_within⟩

theorem Below.finite {bound : Int} (inRange : bound ≤ 1024) {x : Float} (below : Below bound x) :
    isFinite x = true :=
  (isFinite_iff x).mpr (below.mono inRange)

theorem Below.not_nan {bound : Int} {x : Float} (below : Below bound x) : x.isNaN = false := by
  change UnpackedFloat.isNaN x.toModel.unpack = false
  unfold Below at below
  cases unpacked : x.toModel.unpack with
  | notANumber =>
    rw [unpacked] at below
    exact below.elim
  | zero sign | infinity sign | finite sign mantissa exponent positive => rfl

end DrawingPlan.Number
