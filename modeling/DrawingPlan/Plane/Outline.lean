import DrawingPlan.Plane.Point

set_option autoImplicit false

namespace DrawingPlan.Outline

variable {α : Type} [Scalar α]

/-- The corners, counter-clockwise from the base for positive sides, turned about the base. -/
def rectangle (base : Point α) (width height rotation : α) : Except Fault (List (Point α)) :=
  let corners : List (Point α) :=
    [⟨base.x, base.y⟩, ⟨base.x + width, base.y⟩, ⟨base.x + width, base.y + height⟩,
      ⟨base.x, base.y + height⟩]
  if Scalar.equal rotation 0 then .ok corners
  else corners.mapM fun corner => corner.rotate base rotation

def polygonVertex (center : Point α) (radius : α) (sides : Nat) (rotation : α) (i : Nat) :
    Except Fault (Point α) :=
  let angle := Scalar.ofNat 2 * Scalar.pi * Scalar.ofNat i / Scalar.ofNat sides + rotation
  match Scalar.cos? angle, Scalar.sin? angle with
  | some cos, some sin => .ok ⟨center.x + radius * cos, center.y + radius * sin⟩
  | _, _ => .error .angle

def polygon (center : Point α) (radius : α) (sides : Nat) (rotation : α) :
    Except Fault (List (Point α)) :=
  (List.range sides).mapM (polygonVertex center radius sides rotation)

end DrawingPlan.Outline
