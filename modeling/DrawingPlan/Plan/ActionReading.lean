import DrawingPlan.Plan.Field

set_option autoImplicit false

namespace DrawingPlan

open DrawingPlan.Field

def DrawLine.read (obj : Json) : DrawLine Float where
  start := point obj "from" standard.start
  finish := point obj "to" standard.finish
  layer := layerName obj

def DrawPolyline.read (obj : Json) : DrawPolyline Float where
  points :=
    match obj.field "points" with
    | .list items => items.map (pointOf Point.origin)
    | _ => []
  closed :=
    match obj.field "closed" with
    | .bool closed => closed
    | _ => false
  layer := layerName obj

def DrawRectangle.read (obj : Json) : DrawRectangle Float where
  base := point obj "base" standard.base
  width := number obj "width" standard.width
  height := number obj "height" standard.height
  rotation := Scalar.radians (number obj "rotation" standard.rotation)
  layer := layerName obj

def DrawCircle.read (obj : Json) : DrawCircle Float where
  center := point obj "center" standard.center
  radius := number obj "radius" standard.radius
  layer := layerName obj

def mostSides : Nat := 1024

def sidesOf (x : Float) : Nat :=
  let sides := (Number.truncate? x).getD 0
  (min (max sides fewestSides) mostSides).toNat

def DrawPolygon.read? (obj : Json) : Except Fault (DrawPolygon Float) :=
  make? (point obj "center" standard.center) (number obj "radius" standard.radius)
    (sidesOf (number obj "sides" (Scalar.ofNat (standard : DrawPolygon Float).sides)))
    (Scalar.radians (number obj "rotation" (standard : DrawPolygon Float).rotation))
    (layerName obj)

def InsertBlock.read (obj : Json) : InsertBlock Float where
  name := (text? obj "name").getD (standard : InsertBlock Float).name
  position := point obj "position" standard.position
  scale := number obj "scale" standard.scale
  rotation := Scalar.radians (number obj "rotation" standard.rotation)
  layer := layerName obj
  attributes := attributeTexts obj

def Move.read (filter : Option (Filter Float)) (obj : Json) : Move Float where
  filter := filter
  offset := point obj "offset" standard.offset

def Rotate.read (filter : Option (Filter Float)) (obj : Json) : Rotate Float where
  filter := filter
  base := point obj "base" standard.base
  angle := Scalar.radians (number obj "angle" standard.angle)

def Scale.read (filter : Option (Filter Float)) (obj : Json) : Scale Float where
  filter := filter
  base := point obj "base" standard.base
  factor := number obj "factor" standard.factor

def ChangeLayer.read (filter : Option (Filter Float)) (obj : Json) : ChangeLayer Float where
  filter := filter
  targetLayer := text? obj "targetLayer"

def ChangeProperties.read? (filter : Option (Filter Float)) (obj : Json) :
    Except Fault (ChangeProperties Float) := do
  let color ← integer? (obj.field "colorIndex")
  return {
    filter, color
    linetype := text? obj "linetype"
    linetypeScale := number? (obj.field "linetypeScale") }

end DrawingPlan
