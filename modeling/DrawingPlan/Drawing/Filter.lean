import DrawingPlan.Drawing.Basic

set_option autoImplicit false

namespace DrawingPlan

structure Filter (α : Type) where
  layer : Option Text := none
  kind : Option Text := none
  window : Option (Point α × Point α) := none
  crossing : Option (Point α × Point α) := none
deriving DecidableEq, Repr

namespace Filter

variable {α : Type}

def isEmpty (filter : Filter α) : Bool :=
  filter.layer.isNone && filter.kind.isNone && filter.window.isNone && filter.crossing.isNone

def acceptsLayer (filter : Filter α) (entity : Entity α) : Bool :=
  match filter.layer with
  | none => true
  | some layer => entity.layer.lower = layer.lower

def acceptsKind (filter : Filter α) (entity : Entity α) : Except Fault Bool :=
  match filter.kind, entity.kind? with
  | none, _ => .ok true
  | some _, none => .error .noGeometry
  | some name, some kind => .ok (Text.lower kind.name = name.lower)

def acceptsWindow [Scalar α] (filter : Filter α) (box : Box α) : Bool :=
  match filter.window with
  | none => true
  | some (a, b) => (Box.ofCorners a b).contains box

def acceptsCrossing [Scalar α] (filter : Filter α) (box : Box α) : Bool :=
  match filter.crossing with
  | none => true
  | some (a, b) => (Box.ofCorners a b).overlaps box

/-- The box is worked out only for a filter with a window; an entity without a box fails it. -/
def acceptsPlace [Scalar α] (filter : Filter α) (entity : Entity α) : Except Fault Bool :=
  if filter.window.isNone && filter.crossing.isNone then .ok true
  else
    entity.box.map fun
      | none => false
      | some box => filter.acceptsWindow box && filter.acceptsCrossing box

def accepts [Scalar α] (filter : Filter α) (entity : Entity α) : Except Fault Bool := do
  if filter.acceptsLayer entity then
    if ← filter.acceptsKind entity then filter.acceptsPlace entity else return false
  else return false

def acceptsAny [Scalar α] (filter : Option (Filter α)) (entity : Entity α) : Except Fault Bool :=
  match filter with
  | none => .ok true
  | some filter => filter.accepts entity

def among [Scalar α] (filter : Option (Filter α)) : List (Entity α × Nat) → Except Fault (List Nat)
  | [] => return []
  | (entity, index) :: rest =>
    if entity.deleted then among filter rest
    else do
      let accepted ← acceptsAny filter entity
      let others ← among filter rest
      return if accepted then index :: others else others

end Filter

def Drawing.select {α : Type} [Scalar α] (drawing : Drawing α) (filter : Option (Filter α)) :
    Except Fault (List Nat) :=
  Filter.among filter drawing.entities.zipIdx

end DrawingPlan
