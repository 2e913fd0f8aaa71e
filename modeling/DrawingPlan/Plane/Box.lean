import DrawingPlan.Plane.Point

set_option autoImplicit false

namespace DrawingPlan

structure Box (α : Type) where
  low : Point α
  high : Point α
deriving DecidableEq, Repr

namespace Box

variable {α : Type} [Scalar α]

def around (first : Point α) (others : List (Point α)) : Box α where
  low := ⟨Scalar.least first.x (others.map (·.x)), Scalar.least first.y (others.map (·.y))⟩
  high := ⟨Scalar.greatest first.x (others.map (·.x)), Scalar.greatest first.y (others.map (·.y))⟩

def ofPoints? : List (Point α) → Option (Box α)
  | [] => none
  | first :: others => some (around first others)

def ofCorners (a b : Point α) : Box α :=
  around a [b]

def ofCircle (center : Point α) (radius : α) : Box α :=
  let r := Scalar.abs radius
  ⟨⟨center.x - r, center.y - r⟩, ⟨center.x + r, center.y + r⟩⟩

def union (a b : Box α) : Box α :=
  around a.low [a.high, b.low, b.high]

def contains (outer inner : Box α) : Bool :=
  Scalar.atMost outer.low.x inner.low.x && Scalar.atMost inner.high.x outer.high.x &&
    Scalar.atMost outer.low.y inner.low.y && Scalar.atMost inner.high.y outer.high.y

def separated (a b : Box α) : Bool :=
  Scalar.less b.high.x a.low.x || Scalar.less a.high.x b.low.x ||
    Scalar.less b.high.y a.low.y || Scalar.less a.high.y b.low.y

def overlaps (a b : Box α) : Bool :=
  !separated a b

def translate (box : Box α) (dx dy : α) : Box α :=
  ⟨box.low.translate dx dy, box.high.translate dx dy⟩

def join? : Option (Box α) → Option (Box α) → Option (Box α)
  | none, b => b
  | some a, none => some a
  | some a, some b => some (a.union b)

end Box

end DrawingPlan
