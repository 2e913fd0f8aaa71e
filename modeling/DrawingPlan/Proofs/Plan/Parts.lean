import DrawingPlan.Plan.Action

set_option autoImplicit false

namespace DrawingPlan

variable {α : Type}

def Filter.corners (filter : Filter α) : List (Point α) :=
  (filter.window.toList ++ filter.crossing.toList).flatMap fun (a, b) => [a, b]

def Filter.texts (filter : Filter α) : List Text :=
  filter.layer.toList ++ filter.kind.toList

namespace Action

def filter? : Action α → Option (Filter α)
  | .move action => action.filter
  | .rotate action => action.filter
  | .scale action => action.filter
  | .erase action => action.filter
  | .changeLayer action => action.filter
  | .changeProperties action => action.filter
  | _ => none

def transform? [Scalar α] : Action α → Option (Transform α)
  | .move action => some (.moving action.offset.x action.offset.y)
  | .rotate action => some (.turning action.base action.angle)
  | .scale action => some (.scaling action.base action.factor)
  | _ => none

def ownPoints : Action α → List (Point α)
  | .line action => [action.start, action.finish]
  | .polyline action => action.points
  | .rectangle action => [action.base]
  | .circle action => [action.center]
  | .polygon action => [action.center]
  | .insertBlock action => [action.position]
  | .move action => [action.offset]
  | .rotate action => [action.base]
  | .scale action => [action.base]
  | .erase _ | .changeLayer _ | .changeProperties _ => []

def points (action : Action α) : List (Point α) :=
  action.ownPoints ++ (action.filter?.map Filter.corners).getD []

def measures : Action α → List α
  | .rectangle action => [action.width, action.height]
  | .circle action => [action.radius]
  | .polygon action => [action.radius]
  | .insertBlock action => [action.scale]
  | .scale action => [action.factor]
  | .changeProperties action => action.linetypeScale.toList
  | _ => []

def angle? : Action α → Option α
  | .rectangle action => some action.rotation
  | .polygon action => some action.rotation
  | .insertBlock action => some action.rotation
  | .rotate action => some action.angle
  | _ => none

def sides? : Action α → Option Nat
  | .polygon action => some action.sides
  | _ => none

def layer? : Action α → Option Text
  | .line action => some action.layer
  | .polyline action => some action.layer
  | .rectangle action => some action.layer
  | .circle action => some action.layer
  | .polygon action => some action.layer
  | .insertBlock action => some action.layer
  | _ => none

def givenNames : Action α → List Text
  | .changeLayer action => action.targetLayer.toList
  | .changeProperties action => action.linetype.toList
  | _ => []

def blockTexts : Action α → List Text
  | .insertBlock action =>
    action.name :: action.attributes.flatMap fun (tag, value) => [tag, value]
  | _ => []

def texts (action : Action α) : List Text :=
  action.layer?.toList ++ action.givenNames ++ action.blockTexts ++
    (action.filter?.map Filter.texts).getD []

end Action

end DrawingPlan
