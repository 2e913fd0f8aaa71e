import DrawingPlan.Proofs.Execution.Effects
import DrawingPlan.Proofs.Execution.Entities
import DrawingPlan.Proofs.Execution.Sequence

set_option autoImplicit false

namespace DrawingPlan

variable {α : Type}

def Geometry.block? : Geometry α → Option (Text × Option (BlockDefinition α))
  | .blockReference reference => some (reference.name, reference.definition)
  | _ => none

def Entity.block? (entity : Entity α) : Option (Text × Option (BlockDefinition α)) :=
  entity.geometry.bind Geometry.block?

structure Entity.Persists (before after : Entity α) : Prop where
  kind : after.kind? = before.kind?
  block : after.block? = before.block?
  frozen : before.deleted = true → after = before

namespace Entity.Persists

theorem refl (entity : Entity α) : entity.Persists entity :=
  ⟨rfl, rfl, fun _ => rfl⟩

theorem trans {first second third : Entity α} (early : first.Persists second)
    (late : second.Persists third) : first.Persists third where
  kind := late.kind.trans early.kind
  block := late.block.trans early.block
  frozen erased := by
    have same := early.frozen erased
    exact (late.frozen (same ▸ erased)).trans same

end Entity.Persists

structure Drawing.Persists (before after : Drawing α) : Prop where
  entities : ∀ (place : Nat) (entity : Entity α), before.entities[place]? = some entity →
    ∃ later, after.entities[place]? = some later ∧ entity.Persists later
  blocks : after.blocks = before.blocks
  name : after.name = before.name
  units : after.insertionUnits = before.insertionUnits
  scale : after.linetypeScale = before.linetypeScale
  color : after.currentColor = before.currentColor

namespace Drawing.Persists

theorem refl (drawing : Drawing α) : drawing.Persists drawing :=
  ⟨fun _ entity found => ⟨entity, found, .refl entity⟩, rfl, rfl, rfl, rfl, rfl⟩

theorem trans {first second third : Drawing α} (early : first.Persists second)
    (late : second.Persists third) : first.Persists third where
  entities place entity found := by
    obtain ⟨middle, there, before⟩ := early.entities place entity found
    obtain ⟨later, found, after⟩ := late.entities place middle there
    exact ⟨later, found, before.trans after⟩
  blocks := late.blocks.trans early.blocks
  name := late.name.trans early.name
  units := late.units.trans early.units
  scale := late.scale.trans early.scale
  color := late.color.trans early.color

theorem of_checkpoint (drawing : Drawing α) (checkpoint : Option (Checkpoint α)) :
    drawing.Persists { drawing with checkpoint } :=
  ⟨fun _ entity found => ⟨entity, found, .refl entity⟩, rfl, rfl, rfl, rfl, rfl⟩

theorem of_frame {before after : Drawing α}
    (frame : after = { before with entities := after.entities, layers := after.layers })
    (entities : ∀ (place : Nat) (entity : Entity α), before.entities[place]? = some entity →
      ∃ later, after.entities[place]? = some later ∧ entity.Persists later) :
    before.Persists after := by
  refine ⟨entities, ?_, ?_, ?_, ?_, ?_⟩
  all_goals rw [frame]

end Drawing.Persists

section Transform

variable [Scalar α] {t : Transform α}

theorem BlockReference.block_of_transform {reference moved : BlockReference α}
    (transformed : reference.transform t = .ok moved) :
    moved.name = reference.name ∧ moved.definition = reference.definition := by
  obtain ⟨insertion, -, later⟩ := bind_ok transformed
  obtain ⟨attributes, -, ended⟩ := bind_ok later
  cases ended
  exact ⟨rfl, rfl⟩

theorem Geometry.block_of_transform {geometry moved : Geometry α}
    (transformed : geometry.transform t = .ok moved) : moved.block? = geometry.block? := by
  cases geometry with
  | line start finish =>
    obtain ⟨first, -, later⟩ := bind_ok transformed
    obtain ⟨second, -, ended⟩ := bind_ok later
    cases ended
    rfl
  | polyline vertices closed =>
    obtain ⟨placed, -, ended⟩ := bind_ok transformed
    cases ended
    rfl
  | circle center radius =>
    obtain ⟨placed, -, ended⟩ := bind_ok transformed
    cases ended
    rfl
  | blockReference reference =>
    obtain ⟨placed, own, ended⟩ := bind_ok transformed
    obtain ⟨name, definition⟩ := BlockReference.block_of_transform own
    cases ended
    simp [Geometry.block?, name, definition]

theorem Entity.persists_of_transform {entity moved : Entity α} (live : entity.deleted = false)
    (transformed : entity.transform t = .ok moved) : entity.Persists moved := by
  obtain ⟨geometry, placed, shape, own, rfl⟩ := Entity.transform_ok transformed
  refine ⟨?_, ?_, fun erased => ?_⟩
  · simp [Entity.kind?, shape, Geometry.kind_of_transform own]
  · simp [Entity.block?, shape, Geometry.block_of_transform own]
  · simp [live] at erased

end Transform

variable [Scalar α]

namespace Action

theorem persists_of_edit {action : Action α} {entity later : Entity α}
    (live : entity.deleted = false) (edited : action.edit entity = .ok later) :
    entity.Persists later := by
  cases action with
  | move action | rotate action | scale action => exact Entity.persists_of_transform live edited
  | _ =>
    cases edited
    refine ⟨rfl, rfl, fun erased => ?_⟩
    simp [live] at erased

/-- An effect leaves an entity as it was, or edits it once, and only while it is live. -/
theorem Effect.later {action : Action α} {before after : Drawing α} {answer : Json}
    (effect : action.Effect before after answer) {place : Nat} {entity : Entity α}
    (found : before.entities[place]? = some entity) :
    ∃ later, after.entities[place]? = some later ∧
      (later = entity ∨ entity.deleted = false ∧ action.edit entity = .ok later) := by
  cases effect with
  | placed drawn tells =>
    have inside : place < before.entities.length := (List.getElem?_eq_some_iff.mp found).1
    refine ⟨entity, ?_, .inl rfl⟩
    simp [Drawing.place, Drawing.append, Drawing.ensureLayer, List.getElem?_append_left inside,
      found]
  | blockless creates missing tells => exact ⟨entity, found, .inl rfl⟩
  | needless edits aimless tells => exact ⟨entity, found, .inl rfl⟩
  | @edited places _ _ edits selected edited tells =>
    rw [← action.prepare_entities places before] at found
    by_cases member : place ∈ places
    -- What is selected is live, so that an erased entity is in no place that is edited.
    · obtain ⟨chosen, there, live⟩ := Drawing.live_of_select selected member
      rw [← action.prepare_entities places before, found] at there
      obtain rfl := Option.some.inj there
      obtain ⟨later, made, placed⟩ := edited.edited place member entity found
      exact ⟨later, placed, .inr ⟨live, made⟩⟩
    · exact ⟨entity, by rw [edited.others place member, found], .inl rfl⟩

theorem Effect.persists {action : Action α} {before after : Drawing α} {answer : Json}
    (effect : action.Effect before after answer) : before.Persists after := by
  refine .of_frame effect.frame fun place entity found => ?_
  obtain ⟨later, there, rfl | ⟨live, edited⟩⟩ := effect.later found
  · exact ⟨later, there, .refl later⟩
  · exact ⟨later, there, persists_of_edit live edited⟩

end Action

namespace Plan

/-- Of any two drawings of a completed run the later one is what the earlier one persists as. -/
theorem run_persists {plan : Plan α} {drawing : Drawing α}
    (done : (plan.run .standard drawing).2 = .ok ()) :
    let ended := (plan.run .standard drawing).1.drawing
    drawing.Persists ended ∧
      ∃ services, CompletedBy plan drawing services ∧
        (drawing :: (services.map Service.left ++ [ended])).Pairwise Drawing.Persists := by
  intro ended
  obtain ⟨services, completed⟩ := completedBy_of_ok done
  obtain ⟨reached, served, same⟩ := completed.served
  have start : drawing.Persists drawing.opened := .of_checkpoint drawing _
  have finish : reached.Persists { reached with checkpoint := none } := .of_checkpoint reached none
  rw [← same] at finish
  have moments := served.pairwise Drawing.Persists.refl Drawing.Persists.trans
    (fun service member => (Service.effect (served.replies service member)).persists) start finish
  exact ⟨(List.pairwise_cons.mp moments).1 ended (by simp [ended]), services, completed, moments⟩

theorem run_persists_of_erased_lines :
    let line : Entity Float := { geometry := some (.line ⟨0, 0⟩ ⟨1, 1⟩) }
    let drawing := (Drawing.empty.append { line with deleted := true }).append line
    let plan : Plan Float := ⟨[.erase ⟨none⟩, .circle .standard, .move ⟨none, ⟨1, 1⟩⟩]⟩
    let ended := (plan.run .standard drawing).1.drawing
    (plan.run .standard drawing).2 = .ok () ∧ drawing.Persists ended ∧
      ended.entities.map Entity.deleted = [true, true, false] := by
  intro line drawing plan ended
  have done : (plan.run .standard drawing).2 = .ok () := rfl
  exact ⟨done, (run_persists done).1, rfl⟩

end Plan

end DrawingPlan
