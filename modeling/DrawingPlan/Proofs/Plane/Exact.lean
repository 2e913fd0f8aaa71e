import Mathlib.Algebra.Order.Field.Basic
import Mathlib.Analysis.SpecialFunctions.Trigonometric.Basic
import Mathlib.Tactic.LinearCombination
import Mathlib.Tactic.Ring
import DrawingPlan.Plane.Point

/-!
Exact numbers: an ordered field in which every angle has a cosine and a sine, which obey the laws of
angle addition. The laws of plane geometry hold for these numbers, which do not round.
-/

set_option autoImplicit false

namespace DrawingPlan

/-- Of lengths and of the half turn nothing is asked: they are in no law of moving or turning. -/
class ExactScalar (α : Type) extends Field α, LinearOrder α, IsStrictOrderedRing α where
  pi : α
  hypot : α → α → α
  cos : α → α
  sin : α → α
  cos_sq_add_sin_sq : ∀ a, cos a * cos a + sin a * sin a = 1
  cos_add : ∀ a b, cos (a + b) = cos a * cos b - sin a * sin b
  sin_add : ∀ a b, sin (a + b) = sin a * cos b + cos a * sin b

namespace ExactScalar

instance toScalar {α : Type} [ExactScalar α] : Scalar α where
  zero := 0
  one := 1
  add x y := x + y
  sub x y := x - y
  mul x y := x * y
  div x y := x / y
  ofNat n := n
  pi := pi
  abs x := |x|
  hypot := hypot
  less x y := decide (x < y)
  atMost x y := decide (x ≤ y)
  equal x y := decide (x = y)
  cos? a := some (cos a)
  sin? a := some (sin a)

noncomputable instance : ExactScalar ℝ where
  pi := Real.pi
  hypot x y := Real.sqrt (x * x + y * y)
  cos := Real.cos
  sin := Real.sin
  cos_sq_add_sin_sq a := by
    have circle := Real.cos_sq_add_sin_sq a
    linear_combination circle
  cos_add := Real.cos_add
  sin_add := Real.sin_add

variable {α : Type} [ExactScalar α]

theorem sin_zero : sin (0 : α) = 0 := by
  have circle := cos_sq_add_sin_sq (0 : α)
  have cosine := cos_add (0 : α) 0
  have sine := sin_add (0 : α) 0
  rw [add_zero] at cosine sine
  -- Either the sine vanishes, or the cosine is one half and the point is not on the circle.
  have product : sin (0 : α) * (1 - 2 * cos 0) = 0 := by linear_combination sine
  rcases mul_eq_zero.mp product with none | half
  · exact none
  · exfalso
    have cosine_half : 2 * cos (0 : α) = 1 := by linear_combination -half
    have vanishes : (2 : α) = 0 := by
      linear_combination 2 * cosine - 2 * circle + 2 * cos 0 * cosine_half
    exact two_ne_zero vanishes

theorem cos_zero : cos (0 : α) = 1 := by
  have circle := cos_sq_add_sin_sq (0 : α)
  have cosine := cos_add (0 : α) 0
  rw [add_zero] at cosine
  rw [sin_zero] at circle cosine
  linear_combination cosine + circle

end ExactScalar

/-- Exact numbers in which the longest side of a right triangle can be measured. -/
class EuclideanScalar (α : Type) extends ExactScalar α where
  hypot_nonneg : ∀ x y, 0 ≤ hypot x y
  hypot_mul_hypot : ∀ x y, hypot x y * hypot x y = x * x + y * y

noncomputable instance : EuclideanScalar ℝ where
  hypot_nonneg x y := Real.sqrt_nonneg (x * x + y * y)
  hypot_mul_hypot x y :=
    Real.mul_self_sqrt (add_nonneg (mul_self_nonneg x) (mul_self_nonneg y))

end DrawingPlan
