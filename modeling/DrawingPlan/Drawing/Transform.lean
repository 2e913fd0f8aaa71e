import DrawingPlan.Drawing.Geometry

set_option autoImplicit false

namespace DrawingPlan

/-- A map on points, with the angle by which it turns and the factor by which it scales. -/
structure Transform (α : Type) where
  place : Point α → Except Fault (Point α)
  turn : α
  factor : α

variable {α : Type} [Scalar α]

namespace Transform

def moving (dx dy : α) : Transform α where
  place p := .ok (p.translate dx dy)
  turn := 0
  factor := 1

def turning (center : Point α) (angle : α) : Transform α where
  place p := p.rotate center angle
  turn := angle
  factor := 1

def scaling (center : Point α) (factor : α) : Transform α where
  place p := .ok (p.scale center factor)
  turn := 0
  factor := factor

end Transform

def Attribute.transform (t : Transform α) (field : Attribute α) : Except Fault (Attribute α) := do
  let position ← t.place field.position
  return { field with position }

namespace BlockReference

def named (name : Text) : BlockReference α :=
  ⟨name, Point.origin, 1, 0, [], none⟩

def base (reference : BlockReference α) : Point α :=
  match reference.definition with
  | none => Point.origin
  | some definition => definition.base

/-- Maps the content of the definition into the drawing: scale, turn, then move. -/
def placement (reference : BlockReference α) : Transform α where
  place p := do
    let fromBase : Point α := ⟨p.x - reference.base.x, p.y - reference.base.y⟩
    let scaled := fromBase.scale Point.origin reference.scale
    let turned ← scaled.rotate Point.origin reference.rotation
    return ⟨turned.x + reference.insertion.x, turned.y + reference.insertion.y⟩
  turn := reference.rotation
  factor := reference.scale

def transform (t : Transform α) (reference : BlockReference α) :
    Except Fault (BlockReference α) := do
  let insertion ← t.place reference.insertion
  let attributes ← reference.attributes.mapM (Attribute.transform t)
  return { reference with
    insertion, attributes
    rotation := reference.rotation + t.turn
    scale := reference.scale * t.factor }

end BlockReference

def Geometry.transform (t : Transform α) : Geometry α → Except Fault (Geometry α)
  | .line start finish => return .line (← t.place start) (← t.place finish)
  | .polyline vertices closed => return .polyline (← vertices.mapM t.place) closed
  | .circle center radius => return .circle (← t.place center) (radius * Scalar.abs t.factor)
  | .blockReference reference => return .blockReference (← reference.transform t)

end DrawingPlan
