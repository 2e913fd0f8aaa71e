import Mathlib.Data.List.Forall2
import DrawingPlan.Proofs.Drawing.Similarity
import DrawingPlan.Proofs.Execution.Growth

set_option autoImplicit false

namespace DrawingPlan

section Filling

variable {α : Type} [Scalar α]

def BlockDefinition.given (definition : BlockDefinition α) (values : List (Text × Text)) :
    List (AttributeDefinition α) :=
  definition.attributes.filter fun field => !field.constant && (values.lookup field.tag).isSome

structure AttributeDefinition.FilledBy (values : List (Text × Text)) (placement : Transform α)
    (field : AttributeDefinition α) (filled : Attribute α) : Prop where
  tag : filled.tag = field.tag
  value : values.lookup field.tag = some filled.value
  position : placement.place field.position = .ok filled.position

structure BlockReference.Filled (reference : BlockReference α) (definition : BlockDefinition α)
    (values : List (Text × Text)) : Prop where
  defined : reference.definition = some definition
  attributes : List.Forall₂ (AttributeDefinition.FilledBy values reference.placement)
    (definition.given values) reference.attributes

def Entity.Filled (entity : Entity α) (definition : BlockDefinition α)
    (values : List (Text × Text)) : Prop :=
  ∃ reference, entity.geometry = some (.blockReference reference) ∧
    reference.Filled definition values

def Drawing.FilledAt (drawing : Drawing α) (place : Nat) (definition : BlockDefinition α)
    (values : List (Text × Text)) : Prop :=
  ∃ entity, drawing.entities[place]? = some entity ∧ entity.Filled definition values

inductive Plan.CarriedOut : List (Plan α) → Drawing α → Drawing α → Prop
  | nil (drawing : Drawing α) : CarriedOut [] drawing drawing
  | cons {plan : Plan α} {rest : List (Plan α)} {drawing ended : Drawing α}
      (done : (plan.run .standard drawing).2 = .ok ())
      (later : CarriedOut rest (plan.run .standard drawing).1.drawing ended) :
      CarriedOut (plan :: rest) drawing ended

variable {definition : BlockDefinition α} {values : List (Text × Text)}

theorem BlockReference.filled_of_bind {reference : BlockReference α}
    {attributes : List (Attribute α)} (defined : reference.definition = some definition)
    (bound : reference.bind definition values = .ok attributes) :
    ({ reference with attributes } : BlockReference α).Filled definition values := by
  refine ⟨defined, ?_⟩
  change List.Forall₂ (AttributeDefinition.FilledBy values reference.placement)
    (definition.given values) attributes
  unfold bind filled at bound
  unfold BlockDefinition.given
  generalize definition.attributes = fields at bound
  induction fields generalizing attributes with
  | nil =>
    cases bound
    exact .nil
  | cons field rest ih =>
    cases fixed : field.constant with
    | true =>
      simp only [List.filterMap_cons, fixed, if_true] at bound
      simpa [fixed] using ih bound
    | false =>
      cases found : values.lookup field.tag with
      | none =>
        simp only [List.filterMap_cons, fixed, found, Option.map_none, Bool.false_eq_true,
          if_false] at bound
        simpa [fixed, found] using ih bound
      | some value =>
        simp only [List.filterMap_cons, fixed, found, Option.map_some, Bool.false_eq_true,
          if_false] at bound
        obtain ⟨filled, others, own, more, rfl⟩ := mapM_cons_ok bound
        obtain ⟨position, placed, made⟩ := bind_ok own
        cases made
        rw [List.filter_cons_of_pos (by simp [fixed, found])]
        exact .cons ⟨rfl, found, placed⟩ (ih more)

theorem InsertBlock.filledAt_perform {action : InsertBlock α} {drawing : Drawing α} {answer : Json}
    (known : drawing.blocks.get? action.name = some definition)
    (answered : (action.perform drawing).answer = .ok answer) :
    (action.perform drawing).drawing.FilledAt drawing.entities.length definition
      action.attributes := by
  simp only [perform, known] at answered ⊢
  split at answered
  · cases answered
  · next attributes bound =>
    refine ⟨_, List.getElem?_concat_length, _, rfl, ?_⟩
    exact BlockReference.filled_of_bind rfl bound

theorem Service.filledAt_of_insertion {service : Service α}
    (replied : service.action.perform service.given = service.reply) {action : InsertBlock α}
    (inserts : service.action = .insertBlock action)
    (known : service.given.blocks.get? action.name = some definition) :
    service.left.FilledAt service.given.entities.length definition action.attributes := by
  rw [inserts] at replied
  have performed : action.perform service.given = service.reply := replied
  have filled := InsertBlock.filledAt_perform known (by rw [performed]; rfl)
  rw [performed] at filled
  exact filled

end Filling

section Keeping

variable {α : Type} [ExactScalar α] {definition : BlockDefinition α} {values : List (Text × Text)}

/-- The attributes are moved one by one, and come to lie where the moved reference places them. -/
theorem BlockReference.filled_of_transform {t : Transform α} (similar : t.Similar)
    {before after : BlockReference α} (transformed : before.transform t = .ok after)
    (filled : before.Filled definition values) : after.Filled definition values := by
  have carried := carried_of_transform transformed
  refine ⟨carried.definition.trans filled.defined, ?_⟩
  rw [placement_of_transform similar transformed]
  have moved := carried.attributes
  have held := filled.attributes
  generalize definition.given values = fields at held
  generalize before.attributes = olds at held moved
  generalize after.attributes = news at moved
  induction held generalizing news with
  | nil =>
    cases moved
    exact .nil
  | @cons field old fields olds own _ ih =>
    obtain ⟨new, others, made, more, rfl⟩ := mapM_cons_ok moved
    obtain ⟨position, placed, same⟩ := bind_ok made
    cases same
    refine .cons ⟨own.tag, own.value, ?_⟩ (ih others more)
    exact Transform.andThen_place own.position placed

theorem Entity.filled_of_transform {t : Transform α} (similar : t.Similar)
    {before after : Entity α} (transformed : before.transform t = .ok after)
    (filled : before.Filled definition values) : after.Filled definition values := by
  obtain ⟨reference, shape, filled⟩ := filled
  obtain ⟨geometry, placed, same, carried, rfl⟩ := Entity.transform_ok transformed
  rw [shape] at same
  cases same
  obtain ⟨moved, own, ended⟩ := bind_ok carried
  cases ended
  exact ⟨moved, rfl, BlockReference.filled_of_transform similar own filled⟩

namespace Action

theorem filled_of_edit {action : Action α} {before after : Entity α}
    (edited : action.edit before = .ok after) (filled : before.Filled definition values) :
    after.Filled definition values := by
  open Transform in
  cases action with
  | move action => exact Entity.filled_of_transform (Elementary.moving ..).similar edited filled
  | rotate action => exact Entity.filled_of_transform (Elementary.turning ..).similar edited filled
  | scale action => exact Entity.filled_of_transform (Elementary.scaling ..).similar edited filled
  | _ =>
    cases edited
    exact filled

theorem Effect.filledAt {action : Action α} {before after : Drawing α} {answer : Json}
    (effect : action.Effect before after answer) {place : Nat}
    (filled : before.FilledAt place definition values) :
    after.FilledAt place definition values := by
  obtain ⟨entity, found, filled⟩ := filled
  obtain ⟨later, there, rfl | ⟨-, edited⟩⟩ := effect.later found
  · exact ⟨later, there, filled⟩
  · exact ⟨later, there, filled_of_edit edited filled⟩

end Action

theorem Served.filledAt {services : List (Service α)} {drawing reached : Drawing α} {place : Nat}
    (served : Served .standard drawing services .standard reached)
    (filled : drawing.FilledAt place definition values) :
    reached.FilledAt place definition values := by
  let kept (drawing : Drawing α) : Prop := drawing.FilledAt place definition values
  have start : kept drawing := filled
  exact served.preserves start fun service member =>
    (Service.effect (served.replies service member)).filledAt

namespace Plan

theorem filledAt_of_run {plan : Plan α} {drawing : Drawing α} {place : Nat}
    (done : (plan.run .standard drawing).2 = .ok ())
    (filled : drawing.FilledAt place definition values) :
    (plan.run .standard drawing).1.drawing.FilledAt place definition values := by
  obtain ⟨services, completed⟩ := completedBy_of_ok done
  obtain ⟨reached, served, same⟩ := completed.served
  rw [same]
  exact served.filledAt filled

theorem filledAt_of_carriedOut {plans : List (Plan α)} {drawing ended : Drawing α}
    (carriedOut : CarriedOut plans drawing ended) {place : Nat}
    (filled : drawing.FilledAt place definition values) :
    ended.FilledAt place definition values := by
  induction carriedOut with
  | nil drawing => exact filled
  | cons done _ ih => exact ih (filledAt_of_run done filled)

/--
Each reference that a plan inserts has its attributes, at their places, after the plan and after all
that succeed later. It is the entity that stands where the drawing ended before the insertion.
-/
theorem attributes_stay {plan : Plan α} {drawing ended : Drawing α} {plans : List (Plan α)}
    (done : (plan.run .standard drawing).2 = .ok ())
    (carriedOut : CarriedOut plans (plan.run .standard drawing).1.drawing ended) :
    ∃ services, CompletedBy plan drawing services ∧
      ∀ service ∈ services, ∀ (action : InsertBlock α) (definition : BlockDefinition α),
        service.action = .insertBlock action →
        service.given.blocks.get? action.name = some definition →
        ended.FilledAt service.given.entities.length definition action.attributes := by
  obtain ⟨services, completed⟩ := completedBy_of_ok done
  obtain ⟨reached, served, same⟩ := completed.served
  refine ⟨services, completed, fun service member action definition inserts known => ?_⟩
  have inserted :=
    service.filledAt_of_insertion (served.replies service member) inserts known
  obtain ⟨earlier, next, later, gives, after⟩ := served.after member
  obtain ⟨rfl, -⟩ := gives.of_standard
  refine filledAt_of_carriedOut carriedOut ?_
  rw [same]
  exact after.filledAt inserted

theorem attributes_stay_of_mirrored_note :
    let fields : List (AttributeDefinition ℝ) :=
      [{ tag := "NAME", position := ⟨1, 0⟩ },
        { tag := "DATE", position := ⟨4, 4⟩, constant := true },
        { tag := "SIZE", position := ⟨2, 3⟩ }]
    let definition : BlockDefinition ℝ := ⟨"NOTE", ⟨0, 1⟩, [], fields, 0⟩
    let drawing := (Drawing.empty : Drawing ℝ).addBlock definition
    let values : List (Text × Text) := [("SIZE", "A4"), ("DATE", "now"), ("NAME", "plan")]
    let action : InsertBlock ℝ := ⟨"NOTE", ⟨7, 8⟩, 3, 1, "TEXT", values⟩
    let plan : Plan ℝ := ⟨[.insertBlock action, .move ⟨none, ⟨5, 6⟩⟩]⟩
    let plans : List (Plan ℝ) :=
      [⟨[.rotate ⟨none, ⟨1, 1⟩, 2⟩]⟩, ⟨[.scale ⟨none, ⟨9, 9⟩, -2⟩, .erase ⟨none⟩]⟩]
    (plan.run .standard drawing).2 = .ok () ∧
      ∃ ended, CarriedOut plans (plan.run .standard drawing).1.drawing ended ∧
        (definition.given values).map AttributeDefinition.tag = ["NAME", "SIZE"] ∧
        ended.FilledAt 0 definition values := by
  intro fields definition drawing values action plan plans
  have done : (plan.run .standard drawing).2 = .ok () := eq_ok_of_isOk (by decide +kernel)
  have carriedOut : CarriedOut plans (plan.run .standard drawing).1.drawing _ :=
    .cons (eq_ok_of_isOk (by decide +kernel))
      (.cons (eq_ok_of_isOk (by decide +kernel)) (.nil _))
  obtain ⟨services, completed, stay⟩ := attributes_stay done carriedOut
  refine ⟨done, _, carriedOut, rfl, ?_⟩
  obtain ⟨reached, ⟨chained, -⟩, -⟩ := completed.served
  have actions := completed.actions
  generalize start : drawing.opened = opened at chained
  cases chained with
  | nil => cases actions
  | @cons service rest reached _ _ =>
    obtain ⟨inserts, -⟩ := List.cons.inj actions
    have place : service.given.entities.length = 0 := by
      rw [← start]
      rfl
    have filled := stay service (by simp) action definition inserts (by rw [← start]; rfl)
    rw [place] at filled
    exact filled

end Plan

end Keeping

end DrawingPlan
