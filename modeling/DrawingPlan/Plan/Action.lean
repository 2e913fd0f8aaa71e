import DrawingPlan.Drawing.Filter

set_option autoImplicit false

namespace DrawingPlan

inductive ActionKind where
  | line
  | polyline
  | rectangle
  | circle
  | polygon
  | insertBlock
  | move
  | rotate
  | scale
  | erase
  | changeLayer
  | changeProperties
deriving DecidableEq, Repr

namespace ActionKind

def name : ActionKind → String
  | .line => "line"
  | .polyline => "polyline"
  | .rectangle => "rectangle"
  | .circle => "circle"
  | .polygon => "polygon"
  | .insertBlock => "insert_block"
  | .move => "move"
  | .rotate => "rotate"
  | .scale => "scale"
  | .erase => "erase"
  | .changeLayer => "change_layer"
  | .changeProperties => "change_properties"

def creating : List ActionKind :=
  [.line, .polyline, .rectangle, .circle, .polygon, .insertBlock]

def editing : List ActionKind :=
  [.move, .rotate, .scale, .erase, .changeLayer, .changeProperties]

def all : List ActionKind :=
  creating ++ editing

def ofName? (name : Text) : Option ActionKind :=
  all.find? fun kind => kind.name = name

end ActionKind

structure DrawLine (α : Type) where
  start : Point α
  finish : Point α
  layer : Text
deriving DecidableEq, Repr

structure DrawPolyline (α : Type) where
  points : List (Point α)
  closed : Bool
  layer : Text
deriving DecidableEq, Repr

structure DrawRectangle (α : Type) where
  base : Point α
  width : α
  height : α
  rotation : α
  layer : Text
deriving DecidableEq, Repr

structure DrawCircle (α : Type) where
  center : Point α
  radius : α
  layer : Text
deriving DecidableEq, Repr

structure DrawPolygon (α : Type) where
  center : Point α
  radius : α
  sides : Nat
  rotation : α
  layer : Text
deriving DecidableEq, Repr

structure InsertBlock (α : Type) where
  name : Text
  position : Point α
  scale : α
  rotation : α
  layer : Text
  attributes : List (Text × Text)
deriving DecidableEq, Repr

structure Move (α : Type) where
  filter : Option (Filter α)
  offset : Point α
deriving DecidableEq, Repr

structure Rotate (α : Type) where
  filter : Option (Filter α)
  base : Point α
  angle : α
deriving DecidableEq, Repr

structure Scale (α : Type) where
  filter : Option (Filter α)
  base : Point α
  factor : α
deriving DecidableEq, Repr

structure Erase (α : Type) where
  filter : Option (Filter α)
deriving DecidableEq, Repr

structure ChangeLayer (α : Type) where
  filter : Option (Filter α)
  targetLayer : Option Text
deriving DecidableEq, Repr

structure ChangeProperties (α : Type) where
  filter : Option (Filter α)
  color : Option Int
  linetype : Option Text
  linetypeScale : Option α
deriving DecidableEq, Repr

inductive Action (α : Type) where
  | line (action : DrawLine α)
  | polyline (action : DrawPolyline α)
  | rectangle (action : DrawRectangle α)
  | circle (action : DrawCircle α)
  | polygon (action : DrawPolygon α)
  | insertBlock (action : InsertBlock α)
  | move (action : Move α)
  | rotate (action : Rotate α)
  | scale (action : Scale α)
  | erase (action : Erase α)
  | changeLayer (action : ChangeLayer α)
  | changeProperties (action : ChangeProperties α)
deriving DecidableEq, Repr

structure Plan (α : Type) where
  actions : List (Action α) := []
deriving DecidableEq, Repr

def Action.kind {α : Type} : Action α → ActionKind
  | .line _ => .line
  | .polyline _ => .polyline
  | .rectangle _ => .rectangle
  | .circle _ => .circle
  | .polygon _ => .polygon
  | .insertBlock _ => .insertBlock
  | .move _ => .move
  | .rotate _ => .rotate
  | .scale _ => .scale
  | .erase _ => .erase
  | .changeLayer _ => .changeLayer
  | .changeProperties _ => .changeProperties

section Standard

variable {α : Type} [Scalar α]

def DrawLine.standard : DrawLine α :=
  ⟨Point.origin, ⟨Scalar.ofNat 100, 0⟩, defaultLayer⟩

def DrawPolyline.standard : DrawPolyline α :=
  ⟨[], false, defaultLayer⟩

def DrawRectangle.standard : DrawRectangle α :=
  ⟨Point.origin, Scalar.ofNat 100, Scalar.ofNat 100, 0, defaultLayer⟩

def DrawCircle.standard : DrawCircle α :=
  ⟨Point.origin, Scalar.ofNat 50, defaultLayer⟩

def DrawPolygon.standard : DrawPolygon α :=
  ⟨Point.origin, Scalar.ofNat 50, 6, 0, defaultLayer⟩

def InsertBlock.standard : InsertBlock α :=
  ⟨"", Point.origin, 1, 0, defaultLayer, []⟩

def Move.standard : Move α :=
  ⟨none, Point.origin⟩

def Rotate.standard : Rotate α :=
  ⟨none, Point.origin, 0⟩

def Scale.standard : Scale α :=
  ⟨none, Point.origin, 1⟩

def Action.standard : ActionKind → Action α
  | .line => .line .standard
  | .polyline => .polyline .standard
  | .rectangle => .rectangle .standard
  | .circle => .circle .standard
  | .polygon => .polygon .standard
  | .insertBlock => .insertBlock .standard
  | .move => .move .standard
  | .rotate => .rotate .standard
  | .scale => .scale .standard
  | .erase => .erase ⟨none⟩
  | .changeLayer => .changeLayer ⟨none, none⟩
  | .changeProperties => .changeProperties ⟨none, none, none, none⟩

end Standard

def fewestSides : Nat := 3

-- Of all the values that an action is made from, only the number of sides is checked.
def DrawPolygon.make? {α : Type} (center : Point α) (radius : α) (sides : Int) (rotation : α)
    (layer : Text) : Except Fault (DrawPolygon α) :=
  if (fewestSides : Int) ≤ sides then .ok ⟨center, radius, sides.toNat, rotation, layer⟩
  else .error .fewSides

end DrawingPlan
