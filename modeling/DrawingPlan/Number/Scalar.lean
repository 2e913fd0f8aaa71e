import DrawingPlan.Number.Hypotenuse

/-!
The numbers that coordinates are made of. Drawings are defined over any scalar type: floats when a
plan is carried out, exact numbers when a law of plane geometry is stated.
-/

set_option autoImplicit false

namespace DrawingPlan

/-- Comparisons are tests, so that a scalar may be incomparable; an angle may have no sine. -/
class Scalar (α : Type) extends Zero α, One α, Add α, Sub α, Mul α, Div α where
  ofNat : Nat → α
  pi : α
  abs : α → α
  hypot : α → α → α
  less : α → α → Bool
  atMost : α → α → Bool
  equal : α → α → Bool
  cos? : α → Option α
  sin? : α → Option α

namespace Scalar

variable {α : Type} [Scalar α]

/-- The first of the smallest: a later one counts only when it is smaller. -/
def least (first : α) (others : List α) : α :=
  others.foldl (fun best x => if less x best then x else best) first

def greatest (first : α) (others : List α) : α :=
  others.foldl (fun best x => if less best x then x else best) first

def radians (degrees : α) : α :=
  degrees * (pi / ofNat 180)

end Scalar

def trigonometric? (f : Float → Float) (angle : Float) : Option Float :=
  match Number.Parts.ofFloat angle with
  | .infinite _ => none
  | _ => some (f angle)

instance : Scalar Float where
  zero := 0.0
  one := 1.0
  add := Float.add
  sub := Float.sub
  mul := Float.mul
  div := Float.div
  ofNat n := Number.nearest false n 1
  pi := Float.ofBits 0x400921FB54442D18
  abs := Float.abs
  hypot := Number.hypot
  less x y := x < y
  atMost x y := x ≤ y
  equal x y := x == y
  cos? := trigonometric? Float.cos
  sin? := trigonometric? Float.sin

end DrawingPlan
