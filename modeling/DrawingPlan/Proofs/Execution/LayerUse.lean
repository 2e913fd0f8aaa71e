import DrawingPlan.Proofs.Drawing.LayerTable
import DrawingPlan.Proofs.Execution.Effects
import DrawingPlan.Proofs.Execution.Entities
import DrawingPlan.Proofs.Execution.Sequence

set_option autoImplicit false

namespace DrawingPlan

variable {α : Type}

def Drawing.OnLayers (drawing : Drawing α) : Prop :=
  ∀ entity ∈ drawing.entities, drawing.layers.has entity.layer = true

def Action.asksFor? (action : Action α) (blocks : Blocks α) (answer : Json) : Option Text :=
  (action.drawsOn? blocks).or (action.target?.filter fun _ => 0 < answer.count "affected")

def Service.asksFor? (service : Service α) : Option Text :=
  service.action.asksFor? service.given.blocks service.answer

theorem Layers.has_ensure_of_has {layers : Layers} {name : Text} (held : layers.has name = true)
    (added : Text) : (layers.ensure added).has name = true := by
  simp [has_ensure, held]

namespace Action

variable {action : Action α}

theorem target?_of_creates (creates : action.layer?.isSome) : action.target? = none := by
  cases action with
  | changeLayer action => cases creates
  | _ => rfl

theorem drawsOn?_of_edits (edits : action.layer? = none) (blocks : Blocks α) :
    action.drawsOn? blocks = none := by
  refine Option.eq_none_iff_forall_ne_some.mpr fun layer drawn => ?_
  rw [layer?_of_drawsOn? drawn] at edits
  cases edits

theorem layer_of_edit [Scalar α] {entity later : Entity α}
    (edited : action.edit entity = .ok later) :
    later.layer = action.target?.getD entity.layer := by
  cases action with
  | move action | rotate action | scale action =>
    obtain ⟨geometry, placed, -, -, rfl⟩ := Entity.transform_ok edited
    rfl
  | _ =>
    cases edited
    rfl

theorem has_prepare (action : Action α) {drawing : Drawing α} {name : Text}
    (held : drawing.layers.has name = true) (places : List Nat) :
    (action.prepare places drawing).layers.has name = true := by
  unfold prepare
  split
  · exact held
  · split
    · exact held
    · exact Layers.has_ensure_of_has held _

namespace Effect

variable [Scalar α] {before after : Drawing α} {answer : Json}

theorem layers (effect : action.Effect before after answer) :
    after.layers =
      (action.asksFor? before.blocks answer).elim before.layers before.layers.ensure := by
  unfold asksFor?
  cases effect with
  | placed drawn tells => simp [drawn, Drawing.place, Drawing.append, Drawing.ensureLayer]
  | blockless creates missing tells => simp [missing, target?_of_creates creates]
  | needless edits aimless tells => simp [drawsOn?_of_edits edits, aimless]
  | @edited places _ _ edits selected edited tells =>
    rw [edited.frame, drawsOn?_of_edits edits, tells.count_affected]
    cases sends : action.target? with
    | none => simp [prepare_of_aimless sends]
    | some layer =>
      cases places with
      | nil => simp [prepare_nil]
      | cons place rest =>
        simp [prepare_of_target sends, Drawing.ensureLayer, Option.filter]

theorem onLayers (effect : action.Effect before after answer) (held : before.OnLayers) :
    after.OnLayers := by
  cases effect with
  | @placed geometry layer _ drawn tells =>
    intro entity member
    rcases List.mem_append.mp member with old | new
    · exact Layers.has_ensure_of_has (held entity old) layer
    · obtain rfl := List.mem_singleton.mp new
      simp [Drawing.place, Drawing.append, Drawing.ensureLayer, Layers.has_ensure]
  | blockless creates missing tells => exact held
  | needless edits aimless tells => exact held
  | @edited places _ _ edits selected edited tells =>
    intro entity member
    obtain ⟨place, found⟩ := List.mem_iff_getElem?.mp member
    obtain ⟨old, there, made⟩ := edited.origin found
    rw [prepare_entities] at there
    have known := action.has_prepare (held old (List.mem_iff_getElem?.mpr ⟨place, there⟩)) places
    rw [edited.frame]
    rcases made with ⟨listed, changed⟩ | ⟨-, rfl⟩
    · rw [layer_of_edit changed]
      cases sends : action.target? with
      | none => exact known
      | some layer =>
        rw [prepare_of_target sends (List.ne_nil_of_mem listed)]
        simp [Drawing.ensureLayer, Layers.has_ensure]
    · exact known

end Effect

end Action

section Runs

variable [Scalar α] {drawing reached : Drawing α} {services : List (Service α)}

theorem Served.onLayers (served : Served .standard drawing services .standard reached)
    (held : drawing.OnLayers) : reached.OnLayers :=
  served.preserves held fun service member =>
    (Service.effect (served.replies service member)).onLayers

theorem Served.layers (served : Served .standard drawing services .standard reached) :
    reached.layers = (services.filterMap Service.asksFor?).foldl Layers.ensure drawing.layers := by
  have replies := served.replies
  obtain ⟨chained, -⟩ := served
  induction chained with
  | nil drawing => rfl
  | @cons service rest reached _ _ ih =>
    obtain ⟨own, others⟩ := List.forall_mem_cons.mp replies
    have first : service.left.layers =
        service.asksFor?.elim service.given.layers service.given.layers.ensure :=
      (Service.effect own).layers
    rw [ih others, first, List.filterMap_cons]
    cases service.asksFor? <;> rfl

namespace Plan.CompletedBy

variable {plan : Plan α}

theorem onLayers (completed : CompletedBy plan drawing services) (held : drawing.OnLayers) :
    (plan.run .standard drawing).1.drawing.OnLayers := by
  obtain ⟨reached, served, same⟩ := completed.served
  rw [same]
  exact served.onLayers held

end Plan.CompletedBy

end Runs

end DrawingPlan
