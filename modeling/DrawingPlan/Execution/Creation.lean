import DrawingPlan.Execution.Handler
import DrawingPlan.Plane.Outline

set_option autoImplicit false

namespace DrawingPlan

variable {α : Type}

def Drawing.place (drawing : Drawing α) (geometry : Geometry α) (layer : Text) : Drawing α :=
  (drawing.ensureLayer layer).append { geometry := some geometry, layer }

def Reply.shape (drawing : Drawing α) (geometry : Geometry α) (layer : Text) : Reply α :=
  .created (drawing.place geometry layer) (drawing.layerNotes layer) 1 []

def Reply.outline (drawing : Drawing α) (vertices : Except Fault (List (Point α)))
    (layer : Text) : Reply α :=
  match vertices with
  | .error fault => .fault drawing [] fault
  | .ok vertices => .shape drawing (.polyline vertices true) layer

def DrawLine.perform (action : DrawLine α) (drawing : Drawing α) : Reply α :=
  .shape drawing (.line action.start action.finish) action.layer

def DrawPolyline.perform (action : DrawPolyline α) (drawing : Drawing α) : Reply α :=
  .shape drawing (.polyline action.points action.closed) action.layer

def DrawCircle.perform (action : DrawCircle α) (drawing : Drawing α) : Reply α :=
  .shape drawing (.circle action.center action.radius) action.layer

variable [Scalar α]

def DrawRectangle.perform (action : DrawRectangle α) (drawing : Drawing α) : Reply α :=
  .outline drawing (Outline.rectangle action.base action.width action.height action.rotation)
    action.layer

def DrawPolygon.perform (action : DrawPolygon α) (drawing : Drawing α) : Reply α :=
  .outline drawing (Outline.polygon action.center action.radius action.sides action.rotation)
    action.layer

namespace BlockReference

def filled (definition : BlockDefinition α) (values : List (Text × Text)) :
    List (AttributeDefinition α × Text) :=
  definition.attributes.filterMap fun field =>
    if field.constant then none else (values.lookup field.tag).map fun value => (field, value)

def bind (reference : BlockReference α) (definition : BlockDefinition α)
    (values : List (Text × Text)) : Except Fault (List (Attribute α)) :=
  (filled definition values).mapM fun entry => do
    let position ← reference.placement.place entry.1.position
    return { tag := entry.1.tag, value := entry.2, position }

def bindNotes (definition : BlockDefinition α) (values : List (Text × Text)) : List Note :=
  let taken := (filled definition values).map (·.1.tag)
  let unknown := (values.map (·.1)).filter fun tag => !taken.contains tag
  if definition.attributes.isEmpty || unknown.isEmpty then []
  else
    let tags := (unknown.mergeSort Text.le).map Json.text
    [⟨.blocks, .debug,
      "block " ++ definition.name ++ " has no attribute tags " ++ (Json.list tags).shown⟩]

end BlockReference

def InsertBlock.perform (action : InsertBlock α) (drawing : Drawing α) : Reply α :=
  match drawing.blocks.get? action.name with
  | none =>
    .created drawing [] 0 [("reason", .text ("block " ++ action.name.quoted ++ " not found"))]
  | some definition =>
    let reference : BlockReference α :=
      ⟨definition.name, action.position, action.scale, action.rotation, [], some definition⟩
    match reference.bind definition action.attributes with
    | .error fault => .fault drawing [] fault
    | .ok attributes =>
      .created (drawing.place (.blockReference { reference with attributes }) action.layer)
        (BlockReference.bindNotes definition action.attributes ++ drawing.layerNotes action.layer)
        1 [("attributes", .integer attributes.length)]

end DrawingPlan
