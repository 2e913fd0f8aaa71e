import DrawingPlan.Fault
import DrawingPlan.Number.Scalar

set_option autoImplicit false

namespace DrawingPlan

structure Point (α : Type) where
  x : α
  y : α
deriving DecidableEq, Repr

namespace Point

variable {α : Type} [Scalar α]

def origin : Point α :=
  ⟨0, 0⟩

def distance (p q : Point α) : α :=
  Scalar.hypot (p.x - q.x) (p.y - q.y)

def translate (p : Point α) (dx dy : α) : Point α :=
  ⟨p.x + dx, p.y + dy⟩

def rotate (p center : Point α) (angle : α) : Except Fault (Point α) :=
  match Scalar.cos? angle, Scalar.sin? angle with
  | some cos, some sin =>
    let dx := p.x - center.x
    let dy := p.y - center.y
    .ok ⟨center.x + dx * cos - dy * sin, center.y + dx * sin + dy * cos⟩
  | _, _ => .error .angle

def scale (p center : Point α) (factor : α) : Point α :=
  ⟨center.x + (p.x - center.x) * factor, center.y + (p.y - center.y) * factor⟩

end Point

end DrawingPlan
