import DrawingPlan.Drawing.Extent
import DrawingPlan.Number.Layout

set_option autoImplicit false

namespace DrawingPlan

structure Entity (α : Type) where
  geometry : Option (Geometry α)
  layer : Text := "0"
  color : Option Int := none
  linetype : Option Text := none
  linetypeScale : Option α := none
  deleted : Bool := false

namespace Entity

variable {α : Type}

def kind? (entity : Entity α) : Option GeometryKind :=
  entity.geometry.map Geometry.kind

def kind (entity : Entity α) : Except Fault GeometryKind :=
  match entity.kind? with
  | none => .error .noGeometry
  | some kind => .ok kind

def box [Scalar α] (entity : Entity α) : Except Fault (Option (Box α)) :=
  match entity.geometry with
  | none => .ok none
  | some geometry => geometry.box

def transform [Scalar α] (t : Transform α) (entity : Entity α) : Except Fault (Entity α) :=
  match entity.geometry with
  | none => .error (.host "AttributeError" "'NoneType' object has no attribute 'transform'")
  | some geometry => return { entity with geometry := some (← geometry.transform t) }

def describe (entity : Entity Float) : Text :=
  let color := entity.color.map fun index => " color=" ++ toString index
  let linetype := (entity.linetype.filter Text.nonEmpty).map fun name : Text => " linetype=" ++ name
  let scale := entity.linetypeScale.map fun x => " ltscale=" ++ Number.briefText x
  let kind := (entity.kind?.map GeometryKind.name).getD "Entity"
  kind ++ " on '" ++ entity.layer ++ "'" ++ color.getD "" ++ linetype.getD "" ++ scale.getD ""

end Entity

end DrawingPlan
