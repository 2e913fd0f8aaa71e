import Mathlib.Data.Prod.Lex
import DrawingPlan.Number.Scalar

set_option autoImplicit false

namespace DrawingPlan.Number

open Float.Model Float.Model.UnpackedFloat

/-- The sign, then the exponent, then the mantissa; the last two count backwards below zero. -/
def unpackedRank? : UnpackedFloat → Option (ℤ ×ₗ ℤ ×ₗ ℤ)
  | .notANumber => none
  | .infinity sign => some (toLex (sign.apply 2, toLex (0, 0)))
  | .zero _ => some (toLex (0, toLex (0, 0)))
  | .finite sign mantissa exponent _ =>
    some (toLex (sign.apply 1, toLex (sign.apply exponent, sign.apply mantissa)))

def rank? (x : Float) : Option (ℤ ×ₗ ℤ ×ₗ ℤ) :=
  unpackedRank? x.toModel.unpack

theorem compare_neg (a b : ℤ) : compare (-a) (-b) = (compare a b).swap := by
  rw [Int.compare_eq_ite_lt, Int.compare_eq_ite_lt]
  grind [Ordering.swap]

theorem compare_natCast (m n : ℕ) : compare (m : ℤ) (n : ℤ) = compare m n := by
  simp [Int.compare_eq_ite_lt, Nat.compare_eq_ite_lt]

theorem compare_eq_ranks (x y : UnpackedFloat) :
    x.compare y =
      (unpackedRank? x).bind fun a => (unpackedRank? y).map fun b => compare a b := by
  rcases x with sign | _ | _ | ⟨sign, m, e, _⟩ <;>
    rcases y with other | _ | _ | ⟨other, n, f, _⟩ <;>
    (try cases sign) <;> (try cases other) <;>
    dsimp only [UnpackedFloat.compare, unpackedRank?, Sign.apply, Option.bind, Option.map] <;>
    simp [Prod.Lex.compare_def, compareLex, compareOn, compare_neg, compare_natCast,
      Ordering.swap_then] <;> rfl

theorem less_eq_lt (x y : Float) :
    Scalar.less x y = UnpackedFloat.lt x.toModel.unpack y.toModel.unpack := by
  change decide (decide (UnpackedFloat.lt x.toModel.unpack y.toModel.unpack = true) = true) = _
  rw [Bool.decide_eq_true, Bool.decide_eq_true]

theorem atMost_eq_le (x y : Float) :
    Scalar.atMost x y = UnpackedFloat.le x.toModel.unpack y.toModel.unpack := by
  change decide (decide (UnpackedFloat.le x.toModel.unpack y.toModel.unpack = true) = true) = _
  rw [Bool.decide_eq_true, Bool.decide_eq_true]

theorem less_iff {x y : Float} :
    Scalar.less x y = true ↔ ∃ a ∈ rank? x, ∃ b ∈ rank? y, a < b := by
  rw [less_eq_lt, UnpackedFloat.lt, compare_eq_ranks, rank?, rank?]
  cases unpackedRank? x.toModel.unpack <;> cases unpackedRank? y.toModel.unpack <;>
    simp [compare_lt_iff_lt]

theorem atMost_iff {x y : Float} :
    Scalar.atMost x y = true ↔ ∃ a ∈ rank? x, ∃ b ∈ rank? y, a ≤ b := by
  rw [atMost_eq_le, UnpackedFloat.le, compare_eq_ranks, rank?, rank?]
  cases unpackedRank? x.toModel.unpack <;> cases unpackedRank? y.toModel.unpack <;>
    simp [← compare_le_iff_le, Ordering.isLE_iff_ne_gt]

theorem exists_rank {x : Float} (number : x.isNaN = false) : ∃ a, rank? x = some a := by
  change UnpackedFloat.isNaN x.toModel.unpack = false at number
  unfold rank?
  cases unpacked : x.toModel.unpack with
  | notANumber =>
    rw [unpacked] at number
    cases number
  | infinity sign | zero sign | finite sign mantissa exponent positive => exact ⟨_, rfl⟩

section Chains

variable {x y z : Float}

theorem atMost_trans (first : Scalar.atMost x y = true) (second : Scalar.atMost y z = true) :
    Scalar.atMost x z = true := by
  obtain ⟨a, lowest, b, middle, below⟩ := atMost_iff.mp first
  obtain ⟨b', same, c, highest, above⟩ := atMost_iff.mp second
  cases Option.mem_unique middle same
  exact atMost_iff.mpr ⟨a, lowest, c, highest, below.trans above⟩

theorem less_of_less_of_atMost (first : Scalar.less x y = true)
    (second : Scalar.atMost y z = true) : Scalar.less x z = true := by
  obtain ⟨a, lowest, b, middle, below⟩ := less_iff.mp first
  obtain ⟨b', same, c, highest, above⟩ := atMost_iff.mp second
  cases Option.mem_unique middle same
  exact less_iff.mpr ⟨a, lowest, c, highest, below.trans_le above⟩

theorem less_of_atMost_of_less (first : Scalar.atMost x y = true)
    (second : Scalar.less y z = true) : Scalar.less x z = true := by
  obtain ⟨a, lowest, b, middle, below⟩ := atMost_iff.mp first
  obtain ⟨b', same, c, highest, above⟩ := less_iff.mp second
  cases Option.mem_unique middle same
  exact less_iff.mpr ⟨a, lowest, c, highest, below.trans_lt above⟩

theorem atMost_of_less (below : Scalar.less x y = true) : Scalar.atMost x y = true := by
  obtain ⟨a, lowest, b, highest, order⟩ := less_iff.mp below
  exact atMost_iff.mpr ⟨a, lowest, b, highest, order.le⟩

theorem atMost_of_not_less (number : x.isNaN = false) (other : y.isNaN = false)
    (above : ¬Scalar.less y x = true) : Scalar.atMost x y = true := by
  obtain ⟨a, own⟩ := exists_rank number
  obtain ⟨b, its⟩ := exists_rank other
  refine atMost_iff.mpr ⟨a, own, b, its, not_lt.mp fun order => above ?_⟩
  exact less_iff.mpr ⟨b, its, a, own, order⟩

theorem atMost_swap (order : Scalar.atMost x y = true) (below : ¬Scalar.less x y = true) :
    Scalar.atMost y x = true := by
  obtain ⟨a, lowest, b, highest, -⟩ := atMost_iff.mp order
  refine atMost_iff.mpr ⟨b, highest, a, lowest, not_lt.mp fun order => below ?_⟩
  exact less_iff.mpr ⟨a, lowest, b, highest, order⟩

theorem atMost_self (number : x.isNaN = false) : Scalar.atMost x x = true := by
  obtain ⟨a, own⟩ := exists_rank number
  exact atMost_iff.mpr ⟨a, own, a, own, le_rfl⟩

end Chains

end DrawingPlan.Number
