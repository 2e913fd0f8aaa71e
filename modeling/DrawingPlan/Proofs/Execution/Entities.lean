import DrawingPlan.Execution.Run
import DrawingPlan.Proofs.Drawing.Change
import DrawingPlan.Proofs.Except

set_option autoImplicit false

namespace DrawingPlan

variable {α : Type}

structure Entity.Follows (after before : Entity α) : Prop where
  kind : after.kind? = before.kind?
  deleted : before.deleted = true → after.deleted = true

theorem Entity.Follows.refl (entity : Entity α) : entity.Follows entity :=
  ⟨rfl, id⟩

theorem Entity.Follows.trans {first second third : Entity α} (late : third.Follows second)
    (early : second.Follows first) : third.Follows first :=
  ⟨late.kind.trans early.kind, fun erased => late.deleted (early.deleted erased)⟩

namespace Drawing

structure Edited (before after : Drawing α) : Prop where
  entities : ∀ entity ∈ after.entities, ∃ earlier ∈ before.entities, entity.Follows earlier
  blocks : after.blocks = before.blocks

theorem Edited.refl (drawing : Drawing α) : drawing.Edited drawing :=
  ⟨fun entity member => ⟨entity, member, .refl entity⟩, rfl⟩

theorem Edited.trans {first second third : Drawing α} (early : first.Edited second)
    (late : second.Edited third) : first.Edited third where
  entities entity member := by
    obtain ⟨middle, inside, follows⟩ := late.entities entity member
    obtain ⟨earlier, there, before⟩ := early.entities middle inside
    exact ⟨earlier, there, follows.trans before⟩
  blocks := late.blocks.trans early.blocks

theorem edited_editEntity (drawing : Drawing α) {place : Nat} {change : Entity α → Entity α}
    (follows : ∀ entity, drawing.entities[place]? = some entity → (change entity).Follows entity) :
    drawing.Edited (drawing.editEntity place change) where
  entities entity member := by
    obtain ⟨index, inside, rfl⟩ := List.mem_iff_getElem.mp member
    simp only [editEntity, List.length_modify] at inside
    simp only [editEntity, List.getElem_modify]
    refine ⟨drawing.entities[index], List.getElem_mem inside, ?_⟩
    split
    · next same =>
      subst same
      exact follows _ (List.getElem?_eq_getElem inside)
    · exact .refl _
  blocks := rfl

theorem edited_editEach {change : Entity α → Entity α}
    (follows : ∀ entity, (change entity).Follows entity) (places : List Nat)
    (drawing : Drawing α) : drawing.Edited (drawing.editEach change places) :=
  related_foldl Edited.refl Edited.trans
    (fun drawing _ => drawing.edited_editEntity fun entity _ => follows entity) places drawing

/-- An entity that an action may add: with geometry, and a reference only if there is a block. -/
structure Admits (drawing : Drawing α) (entity : Entity α) : Prop where
  shaped : entity.geometry.isSome
  block : entity.kind? = some .blockReference →
    ∃ name definition, drawing.blocks.get? name = some definition

structure Updated (before after : Drawing α) : Prop where
  entities : ∀ entity ∈ after.entities,
    (∃ earlier ∈ before.entities, entity.Follows earlier) ∨ before.Admits entity
  blocks : after.blocks = before.blocks

theorem Edited.updated {before after : Drawing α} (edited : before.Edited after) :
    before.Updated after :=
  ⟨fun entity member => .inl (edited.entities entity member), edited.blocks⟩

theorem updated_place (drawing : Drawing α) {geometry : Geometry α} (layer : Text)
    (block : geometry.kind = .blockReference →
      ∃ name definition, drawing.blocks.get? name = some definition) :
    drawing.Updated (drawing.place geometry layer) where
  entities entity member := by
    rcases List.mem_append.mp member with old | new
    · exact .inl ⟨entity, old, .refl entity⟩
    · obtain rfl := List.mem_singleton.mp new
      exact .inr ⟨rfl, fun kind => block (Option.some.inj kind)⟩
  blocks := rfl

end Drawing

theorem Reply.updated_outline (drawing : Drawing α) (vertices : Except Fault (List (Point α)))
    (layer : Text) : drawing.Updated (Reply.outline drawing vertices layer).drawing := by
  cases vertices with
  | error fault => exact (Drawing.Edited.refl drawing).updated
  | ok vertices => exact drawing.updated_place layer (fun kind => by cases kind)

variable [Scalar α]

theorem Geometry.kind_of_transform {t : Transform α} {geometry moved : Geometry α}
    (transformed : geometry.transform t = .ok moved) : moved.kind = geometry.kind := by
  cases geometry with
  | line start finish =>
    obtain ⟨first, -, later⟩ := bind_ok transformed
    obtain ⟨second, -, ended⟩ := bind_ok later
    cases ended
    rfl
  | polyline vertices closed =>
    obtain ⟨placed, -, ended⟩ := bind_ok transformed
    cases ended
    rfl
  | circle center radius =>
    obtain ⟨placed, -, ended⟩ := bind_ok transformed
    cases ended
    rfl
  | blockReference reference =>
    obtain ⟨placed, -, ended⟩ := bind_ok transformed
    cases ended
    rfl

theorem Entity.transform_ok {t : Transform α} {entity moved : Entity α}
    (transformed : entity.transform t = .ok moved) :
    ∃ geometry placed, entity.geometry = some geometry ∧ geometry.transform t = .ok placed ∧
      moved = { entity with geometry := some placed } := by
  cases shape : entity.geometry with
  | none => simp [Entity.transform, shape] at transformed
  | some geometry =>
    simp only [Entity.transform, shape] at transformed
    obtain ⟨placed, own, ended⟩ := bind_ok transformed
    cases ended
    exact ⟨geometry, placed, rfl, own, rfl⟩

theorem Entity.follows_of_transform {t : Transform α} {entity moved : Entity α}
    (transformed : entity.transform t = .ok moved) : moved.Follows entity := by
  obtain ⟨geometry, placed, shape, own, rfl⟩ := Entity.transform_ok transformed
  exact ⟨by simp [Entity.kind?, shape, Geometry.kind_of_transform own], id⟩

theorem Drawing.edited_transform {drawing : Drawing α} {t : Transform α} {place : Nat}
    {entity moved : Entity α} (found : drawing.entities[place]? = some entity)
    (transformed : entity.transform t = .ok moved) :
    drawing.Edited (drawing.editEntity place fun _ => moved) := by
  refine drawing.edited_editEntity fun other there => ?_
  rw [found] at there
  obtain rfl := Option.some.inj there
  exact Entity.follows_of_transform transformed

theorem Drawing.edited_transformEach (t : Transform α) (places : List Nat) (drawing : Drawing α) :
    drawing.Edited (drawing.transformEach t places).1 := by
  induction places generalizing drawing with
  | nil => exact .refl drawing
  | cons place rest ih =>
    cases found : drawing.entities[place]? with
    | none =>
      simp only [Drawing.transformEach, found, Option.map_none]
      exact ih drawing
    | some entity =>
      cases transformed : entity.transform t with
      | error fault =>
        -- The transform stops here, and the entities before were edited already.
        simp only [Drawing.transformEach, found, Option.map_some, transformed]
        exact .refl drawing
      | ok moved =>
        simp only [Drawing.transformEach, found, Option.map_some, transformed]
        exact (Drawing.edited_transform found transformed).trans (ih _)

theorem Reply.edited_selecting {drawing : Drawing α} {filter : Option (Filter α)}
    {change : List Nat → Reply α} (edited : ∀ places, drawing.Edited (change places).drawing) :
    drawing.Edited (Reply.selecting drawing filter change).drawing := by
  unfold Reply.selecting
  split
  · exact .refl drawing
  · exact edited _

theorem Reply.edited_transforming (drawing : Drawing α) (filter : Option (Filter α))
    (t : Transform α) : drawing.Edited (Reply.transforming drawing filter t).drawing := by
  refine Reply.edited_selecting fun places => ?_
  have edited := Drawing.edited_transformEach t places drawing
  split
  · next moved done =>
    rw [done] at edited
    exact edited
  · next moved fault done =>
    rw [done] at edited
    exact edited

theorem InsertBlock.updated_perform (action : InsertBlock α) (drawing : Drawing α) :
    drawing.Updated (action.perform drawing).drawing := by
  cases known : drawing.blocks.get? action.name with
  | none =>
    simp only [InsertBlock.perform, known]
    exact (Drawing.Edited.refl drawing).updated
  | some definition =>
    simp only [InsertBlock.perform, known]
    split
    · exact (Drawing.Edited.refl drawing).updated
    · exact drawing.updated_place action.layer fun _ => ⟨_, _, known⟩

theorem Erase.edited_perform (action : Erase α) (drawing : Drawing α) :
    drawing.Edited (action.perform drawing).drawing := by
  have single (drawing : Drawing α) (place : Nat) : drawing.Edited (drawing.erase place) :=
    drawing.edited_editEntity fun _ _ => ⟨rfl, fun _ => rfl⟩
  exact Reply.edited_selecting fun places =>
    Drawing.related_foldl Drawing.Edited.refl Drawing.Edited.trans single places drawing

theorem ChangeLayer.edited_perform (action : ChangeLayer α) (drawing : Drawing α) :
    drawing.Edited (action.perform drawing).drawing := by
  unfold ChangeLayer.perform
  split
  · exact .refl drawing
  · refine Reply.edited_selecting fun places => ?_
    split
    · exact .refl drawing
    · next layer _ _ =>
      have ensured : drawing.Edited (drawing.ensureLayer layer) :=
        ⟨fun entity member => ⟨entity, member, .refl entity⟩, rfl⟩
      have follows (entity : Entity α) : ({ entity with layer } : Entity α).Follows entity :=
        ⟨rfl, id⟩
      exact ensured.trans (Drawing.edited_editEach follows places _)

theorem ChangeProperties.edited_perform (action : ChangeProperties α) (drawing : Drawing α) :
    drawing.Edited (action.perform drawing).drawing := by
  unfold ChangeProperties.perform
  split
  · exact .refl drawing
  · have follows (entity : Entity α) : (action.apply entity).Follows entity := ⟨rfl, id⟩
    exact Reply.edited_selecting fun places => Drawing.edited_editEach follows places drawing

theorem Action.updated_perform (action : Action α) (drawing : Drawing α) :
    drawing.Updated (action.perform drawing).drawing := by
  cases action with
  | line action => exact drawing.updated_place _ (fun kind => by cases kind)
  | polyline action => exact drawing.updated_place _ (fun kind => by cases kind)
  | rectangle action => exact Reply.updated_outline drawing _ _
  | circle action => exact drawing.updated_place _ (fun kind => by cases kind)
  | polygon action => exact Reply.updated_outline drawing _ _
  | insertBlock action => exact action.updated_perform drawing
  | move action => exact (Reply.edited_transforming drawing _ _).updated
  | rotate action => exact (Reply.edited_transforming drawing _ _).updated
  | scale action => exact (Reply.edited_transforming drawing _ _).updated
  | erase action => exact (action.edited_perform drawing).updated
  | changeLayer action => exact (action.edited_perform drawing).updated
  | changeProperties action => exact (action.edited_perform drawing).updated

end DrawingPlan
