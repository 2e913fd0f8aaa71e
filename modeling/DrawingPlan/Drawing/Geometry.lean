import DrawingPlan.Plane.Box

/-!
Geometry is held by value: no two entities share a piece of it, and no entity shares one with a
block definition. Definitions are shared, and a serial tells whether two of them are the same one.
A reference holds the definition that it was made from, so that blocks nest and never in a circle.
-/

set_option autoImplicit false

namespace DrawingPlan

inductive GeometryKind where
  | line
  | polyline
  | circle
  | blockReference
deriving DecidableEq, Repr

def GeometryKind.name : GeometryKind → String
  | .line => "Line"
  | .polyline => "Polyline"
  | .circle => "Circle"
  | .blockReference => "BlockReference"

def GeometryKind.all : List GeometryKind :=
  [.line, .polyline, .circle, .blockReference]

structure AttributeDefinition (α : Type) where
  tag : Text
  default : Text := ""
  position : Point α
  constant : Bool := false
deriving DecidableEq, Repr

structure Attribute (α : Type) where
  tag : Text
  value : Text
  position : Point α
deriving DecidableEq, Repr

/-- The number of an addition to a block table, and that of the copies made since. -/
structure Serial where
  number : Nat
  copies : Nat := 0
deriving DecidableEq, Repr

instance (n : Nat) : OfNat Serial n where
  ofNat := { number := n }

mutual

inductive Geometry (α : Type) where
  | line (start finish : Point α)
  | polyline (vertices : List (Point α)) (closed : Bool)
  | circle (center : Point α) (radius : α)
  | blockReference (reference : BlockReference α)

structure BlockReference (α : Type) where
  name : Text
  insertion : Point α
  scale : α
  rotation : α
  attributes : List (Attribute α)
  definition : Option (BlockDefinition α)

structure BlockDefinition (α : Type) where
  name : Text
  base : Point α
  items : List (Geometry α)
  attributes : List (AttributeDefinition α)
  serial : Serial

end

def Geometry.kind {α : Type} : Geometry α → GeometryKind
  | .line .. => .line
  | .polyline .. => .polyline
  | .circle .. => .circle
  | .blockReference _ => .blockReference

end DrawingPlan
