import DrawingPlan.Execution.Handler

set_option autoImplicit false

namespace DrawingPlan

variable {α : Type}

def Drawing.editEach (drawing : Drawing α) (change : Entity α → Entity α) (places : List Nat) :
    Drawing α :=
  places.foldl (fun edited place => edited.editEntity place change) drawing

variable [Scalar α]

def Drawing.transformEach (t : Transform α) (drawing : Drawing α) :
    List Nat → Drawing α × Except Fault Unit
  | [] => (drawing, .ok ())
  | place :: rest =>
    match (drawing.entities[place]?).map (Entity.transform t) with
    | none => transformEach t drawing rest
    -- What was transformed before the fault stays so, until the plan is rolled back.
    | some (.error fault) => (drawing, .error fault)
    | some (.ok moved) => transformEach t (drawing.editEntity place fun _ => moved) rest

def Reply.selecting (drawing : Drawing α) (filter : Option (Filter α))
    (change : List Nat → Reply α) : Reply α :=
  match drawing.select filter with
  | .error fault => .fault drawing [] fault
  | .ok places => change places

def Reply.transforming (drawing : Drawing α) (filter : Option (Filter α)) (t : Transform α) :
    Reply α :=
  .selecting drawing filter fun places =>
    match drawing.transformEach t places with
    | (moved, .ok ()) => .affected moved [] places.length []
    | (moved, .error fault) => .fault moved [] fault

def Move.perform (action : Move α) (drawing : Drawing α) : Reply α :=
  .transforming drawing action.filter (.moving action.offset.x action.offset.y)

def Rotate.perform (action : Rotate α) (drawing : Drawing α) : Reply α :=
  .transforming drawing action.filter (.turning action.base action.angle)

def Scale.perform (action : Scale α) (drawing : Drawing α) : Reply α :=
  .transforming drawing action.filter (.scaling action.base action.factor)

def Erase.perform (action : Erase α) (drawing : Drawing α) : Reply α :=
  .selecting drawing action.filter fun places =>
    .affected (places.foldl Drawing.erase drawing) [] places.length []

def ChangeLayer.perform (action : ChangeLayer α) (drawing : Drawing α) : Reply α :=
  match action.targetLayer.filter Text.nonEmpty with
  | none => .affected drawing [] 0 [("reason", .text "no target layer")]
  | some layer =>
    .selecting drawing action.filter fun places =>
      if places.isEmpty then .affected drawing [] 0 []
      else
        .affected
          ((drawing.ensureLayer layer).editEach (fun entity => { entity with layer }) places)
          (drawing.layerNotes layer) places.length []

def ChangeProperties.apply (action : ChangeProperties α) (entity : Entity α) : Entity α :=
  { entity with
    color := action.color.or entity.color
    linetype := action.linetype.or entity.linetype
    linetypeScale := action.linetypeScale.or entity.linetypeScale }

def ChangeProperties.perform (action : ChangeProperties α) (drawing : Drawing α) : Reply α :=
  if action.color.isNone && action.linetype.isNone && action.linetypeScale.isNone then
    .affected drawing [] 0 [("reason", .text "no properties to change")]
  else
    .selecting drawing action.filter fun places =>
      .affected (drawing.editEach action.apply places) [] places.length []

end DrawingPlan
