import DrawingPlan.Proofs.Drawing.Faults
import DrawingPlan.Proofs.Execution.Entities
import DrawingPlan.Proofs.Execution.Sequence
import DrawingPlan.Proofs.Plan.WellFormed

set_option autoImplicit false

namespace DrawingPlan

open DrawingPlan.Number

structure Action.Tame (action : Action Float) : Prop where
  angle : ∀ x ∈ action.angle?, Below 1020 x
  sides : ∀ n ∈ action.sides?, n ≤ 1024

theorem Action.ReadFrom.tame {obj : Json} {action : Action Float} (source : action.ReadFrom obj) :
    action.Tame :=
  ⟨source.angle_below, fun n member => (source.sides_inRange n member).2⟩

def Transform.Total {α : Type} (t : Transform α) : Prop :=
  ∀ p fault, t.place p ≠ .error fault

theorem Action.Tame.total {action : Action Float} (tame : action.Tame) {t : Transform Float}
    (own : action.transform? = some t) : t.Total := by
  intro p fault placed
  cases action with
  | move action | scale action =>
    cases own
    cases placed
  | rotate action =>
    cases own
    have small : Below 1020 action.angle := tame.angle _ rfl
    exact small.not_infinite (by decide) (Point.rotate_error placed).2
  | _ => cases own

namespace Drawing

variable {drawing : Drawing Float}

theorem shaped_of_updated {before after : Drawing Float} (updated : before.Updated after)
    (shaped : before.Shaped) : after.Shaped := by
  intro entity member
  rcases updated.entities entity member with ⟨earlier, inside, follows⟩ | added
  · have kinds := congrArg Option.isSome follows.kind
    simp only [Entity.kind?, Option.isSome_map] at kinds
    rw [kinds]
    exact shaped earlier inside
  · exact added.shaped

theorem transformEach_ok {t : Transform Float} (total : t.Total) (places : List Nat)
    (shaped : ∀ place ∈ places, ∀ entity, drawing.entities[place]? = some entity →
      entity.geometry.isSome) :
    (drawing.transformEach t places).2 = .ok () := by
  induction places generalizing drawing with
  | nil => rfl
  | cons place rest ih =>
    obtain ⟨first, later⟩ := List.forall_mem_cons.mp shaped
    cases found : drawing.entities[place]? with
    | none =>
      simp only [transformEach, found, Option.map_none]
      exact ih later
    | some entity =>
      cases transformed : entity.transform t with
      | error fault =>
        obtain ⟨p, failed⟩ := Entity.transform_error (first entity found) transformed
        exact absurd failed (total p fault)
      | ok moved =>
        simp only [transformEach, found, Option.map_some, transformed]
        refine ih fun other inside after there => ?_
        by_cases same : place = other
        -- A place may come again; what was transformed has geometry still.
        · subst same
          obtain ⟨geometry, placed, -, -, rfl⟩ := Entity.transform_ok transformed
          have result : after = { entity with geometry := some placed } := by
            simpa [editEntity, found, eq_comm] using there
          rw [result]
          rfl
        · exact later other inside after (by simpa [editEntity, same] using there)

end Drawing

section Errors

variable {drawing : Drawing Float} {raised : Raised}

theorem Reply.selecting_error {filter : Option (Filter Float)} {change : List Nat → Reply Float}
    (unfailing : ∀ places, ∃ answer, (change places).answer = .ok answer)
    (shaped : drawing.Shaped)
    (failed : (Reply.selecting drawing filter change).answer = .error raised) :
    raised = .fault .angle ∧ drawing.Stuck filter := by
  cases selected : drawing.select filter with
  | error fault =>
    obtain ⟨rfl, stuck⟩ := Drawing.select_error shaped selected
    simp only [Reply.selecting, selected] at failed
    cases failed
    exact ⟨rfl, stuck⟩
  | ok places =>
    simp only [Reply.selecting, selected] at failed
    obtain ⟨answer, ended⟩ := unfailing places
    rw [ended] at failed
    cases failed

theorem Reply.transforming_error {filter : Option (Filter Float)} {t : Transform Float}
    (total : t.Total) (shaped : drawing.Shaped)
    (failed : (Reply.transforming drawing filter t).answer = .error raised) :
    raised = .fault .angle ∧ drawing.Stuck filter := by
  refine Reply.selecting_error (fun places => ?_) shaped failed
  have done := Drawing.transformEach_ok total places fun place _ entity found =>
    shaped entity (List.mem_of_getElem? found)
  split
  · exact ⟨_, rfl⟩
  · next moved fault stopped =>
    rw [stopped] at done
    cases done

theorem Reply.outline_error {vertices : Except Fault (List (Point Float))} {layer : Text}
    (failed : (Reply.outline drawing vertices layer).answer = .error raised) :
    ∃ fault, vertices = .error fault := by
  cases vertices with
  | error fault => exact ⟨fault, rfl⟩
  | ok vertices => cases failed

theorem InsertBlock.unfailing_perform {action : InsertBlock Float}
    (finite : isInfinite action.rotation ≠ true) :
    (action.perform drawing).answer ≠ .error raised := by
  intro failed
  cases known : drawing.blocks.get? action.name with
  | none =>
    simp only [InsertBlock.perform, known] at failed
    cases failed
  | some definition =>
    simp only [InsertBlock.perform, known] at failed
    split at failed
    · next fault bound =>
      obtain ⟨entry, -, own⟩ := mapM_error bound
      rcases bind_error own with place | ⟨_, -, ended⟩
      · exact finite (BlockReference.place_error place).2
      · cases ended
    · cases failed

theorem Action.perform_error {action : Action Float} (tame : action.Tame) (shaped : drawing.Shaped)
    (failed : (action.perform drawing).answer = .error raised) :
    raised = .fault .angle ∧ drawing.Stuck action.filter? := by
  cases action with
  | line action | polyline action | circle action => cases failed
  | rectangle action =>
    obtain ⟨fault, vertices⟩ := Reply.outline_error failed
    have small : Below 1020 action.rotation := tame.angle _ rfl
    exact absurd (Outline.rectangle_error vertices).2 (small.not_infinite (by decide))
  | polygon action =>
    obtain ⟨fault, vertices⟩ := Reply.outline_error failed
    obtain ⟨i, inside, infinite⟩ := Outline.polygon_error vertices
    have small := below_vertexAngle inside (tame.sides _ rfl) (tame.angle _ rfl)
    exact absurd infinite (small.not_infinite (by decide))
  | insertBlock action =>
    have small : Below 1020 action.rotation := tame.angle _ rfl
    exact absurd failed
      (InsertBlock.unfailing_perform (small.not_infinite (by decide)))
  -- What selects fails in the selection: no transform of a plan fails at any point.
  | move action | rotate action | scale action =>
    exact Reply.transforming_error (tame.total rfl) shaped failed
  | erase action => exact Reply.selecting_error (fun places => ⟨_, rfl⟩) shaped failed
  | changeLayer action =>
    simp only [Action.perform, ChangeLayer.perform] at failed
    split at failed
    · cases failed
    · refine Reply.selecting_error (fun places => ?_) shaped failed
      split <;> exact ⟨_, rfl⟩
  | changeProperties action =>
    simp only [Action.perform, ChangeProperties.perform] at failed
    split at failed
    · cases failed
    · exact Reply.selecting_error (fun places => ⟨_, rfl⟩) shaped failed

end Errors

structure Drawing.BlockFree {α : Type} (drawing : Drawing α) : Prop where
  blocks : drawing.blocks.toList = []
  references : ∀ entity ∈ drawing.entities, entity.deleted = false →
    entity.kind? ≠ some .blockReference

namespace Drawing.BlockFree

theorem get?_eq_none {α : Type} {drawing : Drawing α} (free : drawing.BlockFree) (name : Text) :
    drawing.blocks.get? name = none := by
  have empty : drawing.blocks.table.entries = [] := List.map_eq_nil_iff.mp free.blocks
  simp [Blocks.get?, NameTable.get?, empty]

theorem of_updated {α : Type} {before after : Drawing α} (updated : before.Updated after)
    (free : before.BlockFree) : after.BlockFree where
  blocks := by
    rw [updated.blocks]
    exact free.blocks
  references entity member live kind := by
    rcases updated.entities entity member with ⟨earlier, inside, follows⟩ | added
    -- What is live now was live before, and had the kind that it has.
    · refine free.references earlier inside ?_ (follows.kind ▸ kind)
      cases erased : earlier.deleted with
      | false => rfl
      | true =>
        rw [follows.deleted erased] at live
        cases live
    · obtain ⟨name, definition, known⟩ := added.block kind
      rw [free.get?_eq_none] at known
      cases known

theorem not_stuck {drawing : Drawing Float} (free : drawing.BlockFree)
    (filter : Option (Filter Float)) : ¬drawing.Stuck filter := by
  rintro ⟨found, -, entity, member, live, -, -, reference, shape, -⟩
  exact free.references entity member live (by simp [Entity.kind?, shape, Geometry.kind])

end Drawing.BlockFree

theorem Served.keeps {drawing reached : Drawing Float} {services : List (Service Float)}
    (served : Served .standard drawing services .standard reached) {kept : Drawing Float → Prop}
    (updates : ∀ before after : Drawing Float, before.Updated after → kept before → kept after)
    (start : kept drawing) : kept reached := by
  apply served.preserves start
  intro service member
  have updated := service.action.updated_perform service.given
  rw [served.replies service member] at updated
  exact updates _ _ updated

namespace Plan

structure StuckAt (plan : Plan Float) (drawing : Drawing Float) (services : List (Service Float))
    (given : Drawing Float) (action : Action Float) : Prop where
  served : Served .standard drawing.opened services .standard given
  actions : ∃ rest, plan.actions = services.map Service.action ++ action :: rest
  stuck : given.Stuck action.filter?
  raises : (plan.run .standard drawing).2 =
    .error (.execution (.failed services.length action.kind .angle))
  restored : drawing.Alike (plan.run .standard drawing).1.drawing

variable {plan : Plan Float} {drawing : Drawing Float}

theorem run_of_tame (tame : ∀ action ∈ plan.actions, action.Tame)
    (idle : drawing.inTransaction = false) (shaped : drawing.Shaped) :
    Completed .standard plan drawing ∨
      ∃ services given action, StuckAt plan drawing services given action := by
  rcases Registry.standard_course drawing.opened plan.actions with
    ⟨services, reached, served, same⟩ | ⟨services, given, action, rest, cause, served, same, fault⟩
  · have grown := Registry.standard_obedient.grown_served served
    exact .inl (completed_of_served idle served grown same)
  -- The invariant is that every entity has geometry; the failed action finds it kept.
  · have whole : given.Shaped := served.keeps (fun _ _ => Drawing.shaped_of_updated) shaped
    obtain ⟨blamed, stuck⟩ := Action.perform_error (tame action (by simp [same])) whole fault
    cases blamed
    obtain ⟨progress, run, restored⟩ := run_of_fault idle served fault same
    refine .inr ⟨services, given, action, served, ⟨rest, same⟩, stuck, ?_, ?_⟩
    · rw [run]
    · rw [run]
      exact restored

theorem run_decoded [Json.Nesting] {text : Option Text} (read : (decode text).plan = .ok plan)
    (idle : drawing.inTransaction = false) (shaped : drawing.Shaped) :
    (Completed .standard plan drawing ∨
        ∃ services given action, StuckAt plan drawing services given action) ∧
      (drawing.BlockFree → Completed .standard plan drawing) := by
  have tame : ∀ action ∈ plan.actions, action.Tame := by
    intro action member
    obtain ⟨item, -, source⟩ := readFrom_of_decode read action member
    exact source.tame
  have ends := run_of_tame tame idle shaped
  refine ⟨ends, fun free => ?_⟩
  rcases ends with completed | ⟨services, given, action, stopped⟩
  · exact completed
  · have still : given.BlockFree :=
      stopped.served.keeps (fun _ _ => Drawing.BlockFree.of_updated) ⟨free.blocks, free.references⟩
    exact absurd stopped.stuck (still.not_stuck action.filter?)

set_option maxRecDepth 10000 in
theorem run_decoded_of_infinite_turn :
    let text : Text := "\x7b\"action\":\"erase\",\"filter\":\x7b\"window\":[]\x7d\x7d"
    let filter : Filter Float := { window := some (Point.origin, Point.origin) }
    let plan : Plan Float := ⟨[.erase ⟨some filter⟩]⟩
    let pump : BlockDefinition Float := ⟨"PUMP", Point.origin, [.circle Point.origin 1], [], 0⟩
    let turned : Geometry Float :=
      .blockReference ⟨"PUMP", Point.origin, 1, infinity, [], some pump⟩
    let drawing : Drawing Float := Drawing.empty.append { geometry := some turned }
    (decode (some text)).plan = .ok plan ∧ drawing.inTransaction = false ∧ drawing.Shaped ∧
      ∃ services given action, StuckAt plan drawing services given action := by
  intro text filter plan pump turned drawing
  have read : (decode (some text)).plan = .ok plan := rfl
  have idle : drawing.inTransaction = false := rfl
  have shaped : drawing.Shaped := by
    intro entity member
    obtain rfl := List.mem_singleton.mp member
    rfl
  refine ⟨read, idle, shaped, ?_⟩
  rcases (run_decoded read idle shaped).1 with completed | stopped
  · have failed : (plan.run .standard drawing).2.isOk = false := by decide +kernel
    rw [completed.returns] at failed
    cases failed
  · exact stopped

end Plan

end DrawingPlan
