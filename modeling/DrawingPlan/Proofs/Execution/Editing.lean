import Mathlib.Data.List.Forall2
import DrawingPlan.Proofs.Drawing.Composition
import DrawingPlan.Proofs.Execution.Decoded
import DrawingPlan.Proofs.Execution.Effects

set_option autoImplicit false

namespace DrawingPlan

section Relations

variable {α : Type} [Scalar α]

inductive Action.Alters : Action α → Entity α → Entity α → Prop
  | moved (action : Move α) {entity : Entity α} {geometry : Geometry α}
      (shape : entity.geometry = some geometry) :
      Alters (.move action) entity
        { entity with
          geometry := some (geometry.imageBy
            (fun p => ⟨p.x + action.offset.x, p.y + action.offset.y⟩) 0 1) }
  | turned (action : Rotate α) {cos sin : α} (cosine : Scalar.cos? action.angle = some cos)
      (sine : Scalar.sin? action.angle = some sin) {entity : Entity α} {geometry : Geometry α}
      (shape : entity.geometry = some geometry) :
      Alters (.rotate action) entity
        { entity with
          geometry := some (geometry.imageBy
            (fun p =>
              ⟨action.base.x + (p.x - action.base.x) * cos - (p.y - action.base.y) * sin,
                action.base.y + (p.x - action.base.x) * sin + (p.y - action.base.y) * cos⟩)
            action.angle 1) }
  | scaled (action : Scale α) {entity : Entity α} {geometry : Geometry α}
      (shape : entity.geometry = some geometry) :
      Alters (.scale action) entity
        { entity with
          geometry := some (geometry.imageBy
            (fun p =>
              ⟨action.base.x + (p.x - action.base.x) * action.factor,
                action.base.y + (p.y - action.base.y) * action.factor⟩) 0 action.factor) }
  | erased (action : Erase α) (entity : Entity α) :
      Alters (.erase action) entity { entity with deleted := true }
  | relayered {action : ChangeLayer α} {layer : Text} (given : action.targetLayer = some layer)
      (entity : Entity α) : Alters (.changeLayer action) entity { entity with layer }
  | restyled (action : ChangeProperties α) (entity : Entity α) :
      Alters (.changeProperties action) entity
        { entity with
          color := action.color.or entity.color
          linetype := action.linetype.or entity.linetype
          linetypeScale := action.linetypeScale.or entity.linetypeScale }

def Reply.Affects (reply : Reply α) (count : Nat) : Prop :=
  ∃ answer, reply.answer = .ok answer ∧ Run.accepted answer = true ∧
    answer.field? "affected" = some (.integer count)

structure Action.Completes (action : Action α) (before : Drawing α) (reply : Reply α) : Prop where
  affects : reply.Affects (before.targets action.filter?).length
  entities : List.Forall₂ (fun old new =>
      (Filter.Picks action.filter? old → action.Alters old new) ∧
        (¬Filter.Picks action.filter? old → new = old))
    before.entities reply.drawing.entities
  frame : reply.drawing =
    { before with entities := reply.drawing.entities, layers := reply.drawing.layers }
  layers : action.target? = none → reply.drawing.layers = before.layers

structure Action.Stops (action : Action α) (before : Drawing α) (reply : Reply α) : Prop where
  raises : reply.answer = .error (.fault
    (.host "AttributeError" "'NoneType' object has no attribute 'transform'"))
  entities : List.Forall₂ (fun old new =>
      (Filter.Picks action.filter? old → action.Alters old new ∨ new = old) ∧
        (¬Filter.Picks action.filter? old → new = old))
    before.entities reply.drawing.entities
  frame : reply.drawing = { before with entities := reply.drawing.entities }

end Relations

section Editing

variable {α : Type} [Scalar α] {action : Action α} {drawing : Drawing α} {places : List Nat}

end Editing

section Transforming

variable {α : Type} [Scalar α] {action : Action α} {t : Transform α} {drawing : Drawing α}
  {places : List Nat}

end Transforming

section Decoded

variable {action : Action Float} {drawing : Drawing Float}

end Decoded

end DrawingPlan
