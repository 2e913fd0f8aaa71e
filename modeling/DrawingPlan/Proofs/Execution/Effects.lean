import DrawingPlan.Proofs.Drawing.Selection
import DrawingPlan.Proofs.Execution.Course
import DrawingPlan.Proofs.Plan.Parts

set_option autoImplicit false

namespace DrawingPlan

variable {α : Type}

structure Json.Tells (answer : Json) (created affected : Option Int) : Prop where
  created : answer.field? "created" = created.map Json.integer
  affected : answer.field? "affected" = affected.map Json.integer

def Json.count (answer : Json) (key : Text) : Int :=
  match answer.field? key with
  | some (.integer n) => n
  | _ => 0

namespace Json.Tells

variable {answer : Json} {created affected : Option Int}

theorem count_created (tells : answer.Tells created affected) :
    answer.count "created" = created.getD 0 := by
  cases created <;> simp [count, tells.created]

theorem count_affected (tells : answer.Tells created affected) :
    answer.count "affected" = affected.getD 0 := by
  cases affected <;> simp [count, tells.affected]

end Json.Tells

namespace Drawing

structure EditedAt (edit : Entity α → Except Fault (Entity α)) (places : List Nat)
    (before after : Drawing α) : Prop where
  frame : after = { before with entities := after.entities }
  length : after.entities.length = before.entities.length
  others : ∀ place, place ∉ places → after.entities[place]? = before.entities[place]?
  edited : ∀ place ∈ places, ∀ entity, before.entities[place]? = some entity →
    ∃ later, edit entity = .ok later ∧ after.entities[place]? = some later

variable {edit : Entity α → Except Fault (Entity α)} {before after : Drawing α} {place : Nat}
  {rest : List Nat}

theorem EditedAt.nil (edit : Entity α → Except Fault (Entity α)) (drawing : Drawing α) :
    drawing.EditedAt edit [] drawing :=
  ⟨rfl, rfl, fun _ _ => rfl, by simp⟩

theorem EditedAt.cons (change : Entity α → Entity α) (fresh : place ∉ rest)
    (first : ∀ entity, before.entities[place]? = some entity → edit entity = .ok (change entity))
    (later : (before.editEntity place change).EditedAt edit rest after) :
    before.EditedAt edit (place :: rest) after where
  frame := later.frame
  length := by simpa [editEntity] using later.length
  others other outside := by
    obtain ⟨different, unlisted⟩ : other ≠ place ∧ other ∉ rest := by simpa using outside
    rw [later.others other unlisted]
    simp [editEntity, Ne.symm different]
  edited other member entity found := by
    rcases List.mem_cons.mp member with rfl | listed
    -- The first place is edited now and stands nowhere in the rest.
    · refine ⟨change entity, first entity found, ?_⟩
      rw [later.others other fresh]
      simp [editEntity, found]
    · have different : place ≠ other := fun same => fresh (same ▸ listed)
      exact later.edited other listed entity (by simpa [editEntity, different] using found)

theorem EditedAt.origin {places : List Nat} (edited : before.EditedAt edit places after)
    {later : Entity α} (found : after.entities[place]? = some later) :
    ∃ entity, before.entities[place]? = some entity ∧
      (place ∈ places ∧ edit entity = .ok later ∨ place ∉ places ∧ later = entity) := by
  have inside : place < before.entities.length := by
    rw [← edited.length]
    exact (List.getElem?_eq_some_iff.mp found).1
  refine ⟨before.entities[place], List.getElem?_eq_getElem inside, ?_⟩
  by_cases listed : place ∈ places
  · obtain ⟨made, changed, there⟩ :=
      edited.edited place listed _ (List.getElem?_eq_getElem inside)
    rw [found] at there
    exact .inl ⟨listed, Option.some.inj there ▸ changed⟩
  · rw [edited.others place listed, List.getElem?_eq_getElem inside] at found
    exact .inr ⟨listed, (Option.some.inj found).symm⟩

theorem editedAt_editEach {change : Entity α → Entity α}
    (changes : ∀ entity, edit entity = .ok (change entity)) {places : List Nat}
    (distinct : places.Nodup) (drawing : Drawing α) :
    drawing.EditedAt edit places (drawing.editEach change places) := by
  induction places generalizing drawing with
  | nil => exact .nil edit drawing
  | cons place rest ih =>
    obtain ⟨fresh, others⟩ := List.nodup_cons.mp distinct
    exact .cons change fresh (fun entity _ => changes entity)
      (ih others (drawing.editEntity place change))

theorem editedAt_transformEach [Scalar α] {t : Transform α} {places : List Nat}
    (distinct : places.Nodup) {drawing moved : Drawing α}
    (transformed : drawing.transformEach t places = (moved, .ok ())) :
    drawing.EditedAt (Entity.transform t) places moved := by
  induction places generalizing drawing with
  | nil =>
    cases transformed
    exact .nil _ _
  | cons place rest ih =>
    obtain ⟨fresh, others⟩ := List.nodup_cons.mp distinct
    cases found : drawing.entities[place]? with
    | none =>
      -- An edit where there is nothing changes nothing.
      have same : drawing.editEntity place id = drawing := by
        simp [editEntity]
      simp only [transformEach, found, Option.map_none] at transformed
      refine .cons id fresh (fun entity there => ?_) ?_
      · rw [found] at there
        cases there
      · rw [same]
        exact ih others transformed
    | some entity =>
      cases own : entity.transform t with
      | error fault =>
        simp only [transformEach, found, Option.map_some, own] at transformed
        cases transformed
      | ok later =>
        simp only [transformEach, found, Option.map_some, own] at transformed
        refine .cons (fun _ => later) fresh (fun other there => ?_)
          (ih others transformed)
        rw [found] at there
        obtain rfl := Option.some.inj there
        exact own

end Drawing

namespace Action

def drawsOn? (blocks : Blocks α) : Action α → Option Text
  | .insertBlock action => if (blocks.get? action.name).isSome then some action.layer else none
  | action => action.layer?

theorem layer?_of_drawsOn? {blocks : Blocks α} {action : Action α} {layer : Text}
    (drawn : action.drawsOn? blocks = some layer) : action.layer? = some layer := by
  cases action with
  | insertBlock action =>
    simp only [drawsOn?] at drawn
    split at drawn
    · exact drawn
    · cases drawn
  | _ => exact drawn

def target? : Action α → Option Text
  | .changeLayer action => action.targetLayer.filter Text.nonEmpty
  | _ => none

def edit [Scalar α] : Action α → Entity α → Except Fault (Entity α)
  | .move action => Entity.transform (.moving action.offset.x action.offset.y)
  | .rotate action => Entity.transform (.turning action.base action.angle)
  | .scale action => Entity.transform (.scaling action.base action.factor)
  | .erase _ => fun entity => .ok { entity with deleted := true }
  | .changeLayer action => fun entity =>
    .ok { entity with layer := (action.targetLayer.filter Text.nonEmpty).getD entity.layer }
  | .changeProperties action => fun entity => .ok (action.apply entity)
  | _ => .ok

theorem transforms [Scalar α] {action : Action α} {t : Transform α}
    (own : action.transform? = some t) :
    (∀ drawing, action.perform drawing = .transforming drawing action.filter? t) ∧
      action.edit = Entity.transform t ∧ action.target? = none := by
  cases action with
  | move action | rotate action | scale action =>
    cases own
    exact ⟨fun _ => rfl, rfl, rfl⟩
  | _ => cases own

def prepare (action : Action α) (places : List Nat) (drawing : Drawing α) : Drawing α :=
  match action.target? with
  | none => drawing
  | some layer => if places.isEmpty then drawing else drawing.ensureLayer layer

theorem prepare_of_target {action : Action α} {layer : Text} (sends : action.target? = some layer)
    {places : List Nat} (selected : places ≠ []) (drawing : Drawing α) :
    action.prepare places drawing = drawing.ensureLayer layer := by
  simp [prepare, sends, selected]

theorem prepare_of_aimless {action : Action α} (aimless : action.target? = none)
    (places : List Nat) (drawing : Drawing α) : action.prepare places drawing = drawing := by
  simp [prepare, aimless]

theorem prepare_nil (action : Action α) (drawing : Drawing α) :
    action.prepare [] drawing = drawing := by
  unfold prepare
  split <;> rfl

theorem prepare_frame (action : Action α) (places : List Nat) (drawing : Drawing α) :
    action.prepare places drawing =
      { drawing with layers := (action.prepare places drawing).layers } := by
  unfold prepare
  split
  · rfl
  · split <;> rfl

theorem prepare_entities (action : Action α) (places : List Nat) (drawing : Drawing α) :
    (action.prepare places drawing).entities = drawing.entities := by
  rw [prepare_frame]

inductive Effect [Scalar α] (action : Action α) (before : Drawing α) : Drawing α → Json → Prop
  | placed {geometry : Geometry α} {layer : Text} {answer : Json}
      (drawn : action.drawsOn? before.blocks = some layer) (tells : answer.Tells (some 1) none) :
      Effect action before (before.place geometry layer) answer
  | blockless {answer : Json} (creates : action.layer?.isSome)
      (missing : action.drawsOn? before.blocks = none) (tells : answer.Tells (some 0) none) :
      Effect action before before answer
  | needless {answer : Json} (edits : action.layer? = none) (aimless : action.target? = none)
      (tells : answer.Tells none (some 0)) : Effect action before before answer
  | edited {places : List Nat} {after : Drawing α} {answer : Json}
      (edits : action.layer? = none) (selected : before.select action.filter? = .ok places)
      (edited : (action.prepare places before).EditedAt action.edit places after)
      (tells : answer.Tells none (some places.length)) : Effect action before after answer

theorem Effect.frame [Scalar α] {action : Action α} {before after : Drawing α} {answer : Json}
    (effect : action.Effect before after answer) :
    after = { before with entities := after.entities, layers := after.layers } := by
  cases effect with
  | placed drawn tells => rfl
  | blockless creates missing tells => rfl
  | needless edits aimless tells => rfl
  | edited edits selected edited tells =>
    rw [edited.frame, prepare_frame]

end Action

section Replies

variable [Scalar α] {action : Action α} {drawing : Drawing α} {answer : Json}

theorem Reply.effect_outline {vertices : Except Fault (List (Point α))} {layer : Text}
    (drawn : action.drawsOn? drawing.blocks = some layer)
    (answered : (Reply.outline drawing vertices layer).answer = .ok answer) :
    action.Effect drawing (Reply.outline drawing vertices layer).drawing answer := by
  cases vertices with
  | error fault => cases answered
  | ok vertices =>
    cases answered
    exact .placed drawn ⟨rfl, rfl⟩

theorem Reply.effect_selecting (action : Action α) {change : List Nat → Reply α}
    (effect : ∀ places, drawing.select action.filter? = .ok places →
      (change places).answer = .ok answer → action.Effect drawing (change places).drawing answer)
    (answered : (Reply.selecting drawing action.filter? change).answer = .ok answer) :
    action.Effect drawing (Reply.selecting drawing action.filter? change).drawing answer := by
  cases selected : drawing.select action.filter? with
  | error fault =>
    simp only [Reply.selecting, selected] at answered
    cases answered
  | ok places =>
    simp only [Reply.selecting, selected] at answered ⊢
    exact effect places selected answered

theorem Reply.effect_transforming (action : Action α) {t : Transform α}
    (edits : action.layer? = none) (aimless : action.target? = none)
    (transforms : action.edit = Entity.transform t)
    (answered : (Reply.transforming drawing action.filter? t).answer = .ok answer) :
    action.Effect drawing (Reply.transforming drawing action.filter? t).drawing answer := by
  refine Reply.effect_selecting action (fun places selected ended => ?_) answered
  have distinct := Drawing.nodup_of_select selected
  split at ended
  · next moved transformed =>
    cases ended
    refine .edited edits selected ?_ ⟨rfl, rfl⟩
    rw [Action.prepare_of_aimless aimless, transforms]
    exact Drawing.editedAt_transformEach distinct transformed
  · cases ended

end Replies

section Actions

variable [Scalar α] {drawing : Drawing α} {answer : Json}

theorem InsertBlock.effect_perform {action : InsertBlock α}
    (answered : (action.perform drawing).answer = .ok answer) :
    (Action.insertBlock action).Effect drawing (action.perform drawing).drawing answer := by
  cases known : drawing.blocks.get? action.name with
  | none =>
    simp only [InsertBlock.perform, known] at answered ⊢
    cases answered
    exact .blockless rfl (by simp [Action.drawsOn?, known]) ⟨rfl, rfl⟩
  | some definition =>
    simp only [InsertBlock.perform, known] at answered ⊢
    split at answered
    · cases answered
    · cases answered
      exact .placed (by simp [Action.drawsOn?, known]) ⟨rfl, rfl⟩

theorem Erase.effect_perform {action : Erase α}
    (answered : (action.perform drawing).answer = .ok answer) :
    (Action.erase action).Effect drawing (action.perform drawing).drawing answer := by
  refine Reply.effect_selecting (.erase action) (fun places selected ended => ?_) answered
  cases ended
  exact .edited rfl selected
    (Drawing.editedAt_editEach (fun _ => rfl) (Drawing.nodup_of_select selected) drawing) ⟨rfl, rfl⟩

theorem ChangeLayer.effect_perform {action : ChangeLayer α}
    (answered : (action.perform drawing).answer = .ok answer) :
    (Action.changeLayer action).Effect drawing (action.perform drawing).drawing answer := by
  cases target : action.targetLayer.filter Text.nonEmpty with
  | none =>
    simp only [ChangeLayer.perform, target] at answered ⊢
    cases answered
    exact .needless rfl target ⟨rfl, rfl⟩
  | some layer =>
    simp only [ChangeLayer.perform, target] at answered ⊢
    refine Reply.effect_selecting (.changeLayer action) (fun places selected ended => ?_) answered
    have changes (entity : Entity α) :
        (Action.changeLayer action).edit entity = .ok { entity with layer } := by
      simp [Action.edit, target]
    cases places with
    | nil =>
      cases ended
      refine .edited rfl selected ?_ ⟨rfl, rfl⟩
      rw [Action.prepare_nil]
      exact .nil _ drawing
    | cons place rest =>
      cases ended
      refine .edited rfl selected ?_ ⟨rfl, rfl⟩
      have sends : (Action.changeLayer action).target? = some layer := target
      rw [Action.prepare_of_target sends (List.cons_ne_nil place rest)]
      exact Drawing.editedAt_editEach changes (Drawing.nodup_of_select selected) _

theorem ChangeProperties.effect_perform {action : ChangeProperties α}
    (answered : (action.perform drawing).answer = .ok answer) :
    (Action.changeProperties action).Effect drawing (action.perform drawing).drawing answer := by
  unfold ChangeProperties.perform at answered ⊢
  split at answered
  · next nothing =>
    cases answered
    rw [if_pos nothing]
    exact .needless rfl rfl ⟨rfl, rfl⟩
  · next something =>
    rw [if_neg something]
    refine Reply.effect_selecting (.changeProperties action)
      (fun places selected ended => ?_) answered
    cases ended
    exact .edited rfl selected
      (Drawing.editedAt_editEach (fun _ => rfl) (Drawing.nodup_of_select selected) drawing)
      ⟨rfl, rfl⟩

theorem Action.effect_perform (action : Action α) (drawing : Drawing α)
    (answered : (action.perform drawing).answer = .ok answer) :
    action.Effect drawing (action.perform drawing).drawing answer := by
  cases action with
  | line action | polyline action | circle action =>
    cases answered
    exact .placed rfl ⟨rfl, rfl⟩
  | rectangle action | polygon action => exact Reply.effect_outline rfl answered
  | insertBlock action => exact InsertBlock.effect_perform answered
  | move action => exact Reply.effect_transforming (.move action) rfl rfl rfl answered
  | rotate action => exact Reply.effect_transforming (.rotate action) rfl rfl rfl answered
  | scale action => exact Reply.effect_transforming (.scale action) rfl rfl rfl answered
  | erase action => exact Erase.effect_perform answered
  | changeLayer action => exact ChangeLayer.effect_perform answered
  | changeProperties action => exact ChangeProperties.effect_perform answered

theorem Service.effect {service : Service α}
    (replied : service.action.perform service.given = service.reply) :
    service.action.Effect service.given service.left service.answer := by
  have answered : (service.action.perform service.given).answer = .ok service.answer := by
    rw [replied]
    rfl
  have effect := service.action.effect_perform service.given answered
  rw [replied] at effect
  exact effect

end Actions

end DrawingPlan
