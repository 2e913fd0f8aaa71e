import DrawingPlan.Proofs.Number.Natural

set_option autoImplicit false

namespace DrawingPlan.Number

theorem below_degree : Below (-5) (Scalar.pi / Scalar.ofNat 180 : Float) := by
  decide +kernel

theorem below_full_turn : Below 3 (Scalar.ofNat 2 * Scalar.pi : Float) := by
  decide +kernel

theorem below_radians {degrees : Float} (finite : isFinite degrees = true) :
    Below 1020 (Scalar.radians degrees) :=
  ((isFinite_iff degrees).mp finite).mul (by decide) (by decide) (.inl (by decide)) below_degree

theorem below_vertexAngle {sides i : Nat} {rotation : Float} (inside : i < sides)
    (few : sides ≤ 1024) (small : Below 1020 rotation) :
    Below 1022
      (Scalar.ofNat 2 * Scalar.pi * Scalar.ofNat i / Scalar.ofNat sides + rotation) := by
  have place : sides.log2 < 11 := (Nat.log2_lt (by omega)).mpr (by omega)
  have index : Below (11 : Nat) (Scalar.ofNat i) := below_ofNat (by omega) (by decide)
  have turns : Below 15 (Scalar.ofNat 2 * Scalar.pi * Scalar.ofNat i : Float) :=
    below_full_turn.mul (by decide) (by decide) (.inr (by decide)) index
  have part := turns.div (by omega) (by omega) (leads_ofNat (n := sides) (by omega) (by omega))
  exact (part.mono (by omega)).add (by decide) (by decide) small

def isInfinite (x : Float) : Bool :=
  match Parts.ofFloat x with
  | .infinite _ => true
  | _ => false

theorem Below.not_infinite {bound : Int} {x : Float} (below : Below bound x)
    (inRange : bound ≤ 1024) : isInfinite x ≠ true := by
  have finite := below.finite inRange
  unfold isFinite at finite
  unfold isInfinite
  cases parts : Parts.ofFloat x <;> simp_all

theorem trigonometric_eq_none {f : Float → Float} {x : Float} :
    trigonometric? f x = none ↔ isInfinite x = true := by
  cases parts : Parts.ofFloat x <;> simp [trigonometric?, isInfinite, parts]

theorem isInfinite_of_undefined {x : Float}
    (undefined : ∀ c s, Scalar.cos? x = some c → Scalar.sin? x = some s → False) :
    isInfinite x = true := by
  cases cos : Scalar.cos? x with
  | none => exact trigonometric_eq_none.mp cos
  | some c =>
    cases sin : Scalar.sin? x with
    | none => exact trigonometric_eq_none.mp sin
    | some s => exact (undefined c s cos sin).elim

end DrawingPlan.Number
