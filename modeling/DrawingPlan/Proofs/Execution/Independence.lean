import DrawingPlan.Proofs.Drawing.Verdicts
import DrawingPlan.Proofs.Execution.Effects
import DrawingPlan.Proofs.Execution.Entities

set_option autoImplicit false

namespace DrawingPlan

variable {α : Type} [Scalar α]

namespace Filter

variable {filter : Option (Filter α)}

def view (filter : Option (Filter α)) (entity : Entity α) : Bool × Except Fault Bool :=
  (entity.deleted, acceptsAny filter entity)

theorem among_congr {before after : List (Entity α)}
    (same : after.map (view filter) = before.map (view filter)) (start : Nat) :
    among filter (after.zipIdx start) = among filter (before.zipIdx start) := by
  induction after generalizing before start with
  | nil =>
    obtain rfl : before = [] := List.map_eq_nil_iff.mp same.symm
    rfl
  | cons later rest ih =>
    cases before with
    | nil => cases same
    | cons entity others =>
      obtain ⟨own, tails⟩ := List.cons.inj same
      obtain ⟨erased, verdict⟩ := Prod.mk.inj own
      simp only [List.zipIdx_cons, among, erased, verdict, ih tails]

theorem view_apply (filter : Option (Filter α)) (style : ChangeProperties α) (entity : Entity α) :
    view filter (style.apply entity) = view filter entity := by
  cases filter <;> rfl

theorem view_of_transform {t : Transform α} {entity moved : Entity α}
    (blind : ∀ found ∈ filter, ¬found.Windowed) (transformed : entity.transform t = .ok moved) :
    view filter moved = view filter entity := by
  obtain ⟨geometry, placed, shape, own, rfl⟩ := Entity.transform_ok transformed
  cases filter with
  | none => rfl
  | some filter =>
    have kinds : Entity.kind? { entity with geometry := some placed } = entity.kind? := by
      simp [Entity.kind?, shape, Geometry.kind_of_transform own]
    simp only [view, acceptsAny, accepts, acceptsLayer, acceptsKind, kinds,
      acceptsPlace_of_not_windowed (blind filter rfl)]

end Filter

namespace Drawing

variable {filter : Option (Filter α)} {change : Entity α → Entity α} {t : Transform α}

theorem select_congr {before after : Drawing α}
    (same : after.entities.map (Filter.view filter) = before.entities.map (Filter.view filter)) :
    after.select filter = before.select filter :=
  Filter.among_congr same 0

theorem views_editEntity (drawing : Drawing α) {place : Nat}
    (overlooked : ∀ entity, drawing.entities[place]? = some entity →
      Filter.view filter (change entity) = Filter.view filter entity) :
    (drawing.editEntity place change).entities.map (Filter.view filter) =
      drawing.entities.map (Filter.view filter) := by
  refine List.ext_getElem? fun other => ?_
  by_cases same : place = other
  · subst same
    cases found : drawing.entities[place]? with
    | none => simp [editEntity, found]
    | some entity => simp [editEntity, found, overlooked entity found]
  · simp [editEntity, same]

theorem views_editEach (drawing : Drawing α)
    (overlooked : ∀ entity, Filter.view filter (change entity) = Filter.view filter entity)
    (places : List Nat) :
    (drawing.editEach change places).entities.map (Filter.view filter) =
      drawing.entities.map (Filter.view filter) := by
  induction places generalizing drawing with
  | nil => rfl
  | cons place rest ih =>
    exact (ih _).trans (drawing.views_editEntity fun entity _ => overlooked entity)

theorem views_transformEach (blind : ∀ found ∈ filter, ¬found.Windowed) (drawing : Drawing α)
    (places : List Nat) :
    (drawing.transformEach t places).1.entities.map (Filter.view filter) =
      drawing.entities.map (Filter.view filter) := by
  induction places generalizing drawing with
  | nil => rfl
  | cons place rest ih =>
    simp only [transformEach]
    split
    · exact ih drawing
    · rfl
    · next moved made =>
      obtain ⟨entity, found, own⟩ := Option.map_eq_some_iff.mp made
      refine (ih _).trans (drawing.views_editEntity fun other there => ?_)
      cases found.symm.trans there
      exact Filter.view_of_transform blind own

section Natural

variable (natural : ∀ entity, (change entity).transform t = (entity.transform t).map change)

include natural

theorem transformEach_editEntity (drawing : Drawing α) (edited : Nat) (places : List Nat) :
    (drawing.editEntity edited change).transformEach t places =
      ((drawing.transformEach t places).1.editEntity edited change,
        (drawing.transformEach t places).2) := by
  induction places generalizing drawing with
  | nil => rfl
  | cons place rest ih =>
    -- What the change makes of the entity at the place, which may be the one that it edits.
    let carried (entity : Entity α) : Entity α := if edited = place then change entity else entity
    have there : (drawing.editEntity edited change).entities[place]? =
        drawing.entities[place]?.map carried := List.getElem?_modify ..
    have carries (entity : Entity α) :
        (carried entity).transform t = (entity.transform t).map carried := by
      by_cases same : edited = place
      · simp only [carried, if_pos same, natural]
      · cases own : entity.transform t <;> simp [carried, same, own, Except.map]
    have swapped (moved : Entity α) :
        (drawing.editEntity edited change).editEntity place (fun _ => carried moved) =
          (drawing.editEntity place fun _ => moved).editEntity edited change := by
      by_cases same : edited = place
      · simp [editEntity, carried, same, List.modify_modify_eq, Function.comp_def]
      · simp [editEntity, carried, same, List.modify_modify_ne _ _ _ same]
    cases found : drawing.entities[place]? with
    | none => simp only [transformEach, there, found, Option.map_none, ih]
    | some entity =>
      cases own : entity.transform t with
      | error fault =>
        simp only [transformEach, there, found, Option.map_some, carries, own, Except.map]
      | ok moved =>
        simp only [transformEach, there, found, Option.map_some, carries, own, Except.map, swapped,
          ih]

theorem transformEach_editEach (drawing : Drawing α) (chosen places : List Nat) :
    (drawing.editEach change chosen).transformEach t places =
      ((drawing.transformEach t places).1.editEach change chosen,
        (drawing.transformEach t places).2) := by
  induction chosen generalizing drawing with
  | nil => rfl
  | cons edited rest ih =>
    rw [editEach, List.foldl_cons, ← editEach, ih, transformEach_editEntity natural]
    rfl

end Natural

end Drawing

theorem Entity.transform_apply (t : Transform α) (style : ChangeProperties α) (entity : Entity α) :
    (style.apply entity).transform t = (entity.transform t).map style.apply := by
  obtain ⟨geometry, layer, color, linetype, linetypeScale, deleted⟩ := entity
  cases geometry with
  | none => rfl
  | some geometry =>
    simp only [transform, ChangeProperties.apply]
    cases geometry.transform t <;> rfl

theorem Reply.views_transforming {filter : Option (Filter α)}
    (blind : ∀ found ∈ filter, ¬found.Windowed) (drawing : Drawing α) (other : Option (Filter α))
    (t : Transform α) :
    (Reply.transforming drawing other t).drawing.entities.map (Filter.view filter) =
      drawing.entities.map (Filter.view filter) := by
  unfold transforming selecting
  split
  · rfl
  · next places _ =>
    have overlooked := drawing.views_transformEach (t := t) blind places
    dsimp only
    split
    · next moved done =>
      rw [done] at overlooked
      exact overlooked
    · next moved fault stopped =>
      rw [stopped] at overlooked
      exact overlooked

def Reply.mapDrawing (change : Drawing α → Drawing α) (reply : Reply α) : Reply α :=
  { reply with drawing := change reply.drawing }

theorem Reply.transforming_editEach (style : ChangeProperties α) (drawing : Drawing α)
    (filter : Option (Filter α)) (t : Transform α) (chosen : List Nat) :
    Reply.transforming (drawing.editEach style.apply chosen) filter t =
      (Reply.transforming drawing filter t).mapDrawing (·.editEach style.apply chosen) := by
  have same : (drawing.editEach style.apply chosen).select filter = drawing.select filter :=
    Drawing.select_congr (drawing.views_editEach (Filter.view_apply filter style) chosen)
  simp only [transforming, selecting, same]
  cases drawing.select filter with
  | error fault => rfl
  | ok places =>
    simp only [Drawing.transformEach_editEach (Entity.transform_apply t style)]
    rcases drawing.transformEach t places with ⟨moved, ended⟩
    cases ended <;> rfl

theorem ChangeProperties.perform_of_select (style : ChangeProperties α)
    (selection : Except Fault (List Nat)) :
    ∃ places notes answer, ∀ drawing : Drawing α, drawing.select style.filter = selection →
      style.perform drawing = ⟨drawing.editEach style.apply places, notes, answer⟩ := by
  unfold perform
  split
  · exact ⟨[], _, _, fun drawing _ => rfl⟩
  · cases selection with
    | error fault =>
      exact ⟨[], _, _, fun drawing failed => by simp only [Reply.selecting, failed]; rfl⟩
    | ok places =>
      exact ⟨places, _, _, fun drawing selected => by simp only [Reply.selecting, selected]; rfl⟩

namespace Action

structure InTurn (first second : Action α) (before : Drawing α) (early late : Json)
    (after : Drawing α) : Prop where
  opens : (first.perform before).answer = .ok early
  follows : (second.perform (first.perform before).drawing).answer = .ok late
  leaves : (second.perform (first.perform before).drawing).drawing = after

theorem exists_transform {action : Action α}
    (listed : action.kind ∈ [ActionKind.move, .rotate, .scale]) :
    ∃ t, action.transform? = some t := by
  cases action with
  | move action | rotate action | scale action => exact ⟨_, rfl⟩
  | _ => simp [kind] at listed

/--
Properties may be given before a move, a turn or a scaling or after it, if no window selects the
entities that get them. Where one order does not fail, the other does not either, and both get the
same answers and leave the same drawing.
-/
theorem perform_commutes {style : ChangeProperties α} {edit : Action α}
    (blind : ∀ filter ∈ style.filter, ¬filter.Windowed)
    (listed : edit.kind ∈ [ActionKind.move, .rotate, .scale]) (before after : Drawing α)
    (styled edited : Json) :
    InTurn (.changeProperties style) edit before styled edited after ↔
      InTurn edit (.changeProperties style) before edited styled after := by
  obtain ⟨t, own⟩ := exists_transform listed
  obtain ⟨performs, -⟩ := transforms own
  -- The selection is the same before and after the edit, and so is all that the change does.
  obtain ⟨places, notes, answer, gives⟩ := style.perform_of_select (before.select style.filter)
  have same : (edit.perform before).drawing.select style.filter = before.select style.filter := by
    rw [performs]
    exact Drawing.select_congr (Reply.views_transforming blind before _ t)
  have early : (changeProperties style).perform before =
      ⟨before.editEach style.apply places, notes, answer⟩ := gives before rfl
  have late : (changeProperties style).perform (edit.perform before).drawing =
      ⟨(edit.perform before).drawing.editEach style.apply places, notes, answer⟩ := gives _ same
  have across : edit.perform (before.editEach style.apply places) =
      (edit.perform before).mapDrawing (·.editEach style.apply places) := by
    rw [performs, performs, Reply.transforming_editEach]
  constructor
  · rintro ⟨opens, follows, leaves⟩
    rw [early] at opens follows leaves
    rw [across] at follows leaves
    refine ⟨follows, ?_, ?_⟩
    · rw [late]
      exact opens
    · rw [late]
      exact leaves
  · rintro ⟨opens, follows, leaves⟩
    rw [late] at follows leaves
    refine ⟨?_, ?_, ?_⟩
    · rw [early]
      exact follows
    · rw [early, across]
      exact opens
    · rw [early, across]
      exact leaves

theorem perform_commutes_of_coloured_circle :
    let circle : Entity Float := { geometry := some (.circle ⟨5, 5⟩ 1), layer := "Wire" }
    let line : Entity Float := { geometry := some (.line ⟨0, 0⟩ ⟨1, 1⟩) }
    let before : Drawing Float :=
      { (Drawing.empty : Drawing Float) with entities := [line, circle, { geometry := none }] }
    let style : ChangeProperties Float :=
      ⟨some { layer := some "WIRE", kind := some "circle" }, some 2, none, none⟩
    let edit : Action Float := .scale ⟨some { crossing := some (⟨9, 9⟩, ⟨6, 2⟩) }, ⟨0, 0⟩, 2⟩
    let one : Json := .object [("ok", .bool true), ("affected", .integer 1)]
    ∃ after, InTurn (.changeProperties style) edit before one one after ∧
      InTurn edit (.changeProperties style) before one one after ∧
      after.entities.map Entity.color = [none, some 2, none] := by
  intro circle line before style edit one
  have blind : ∀ filter ∈ style.filter, ¬filter.Windowed := by
    simp [style, Filter.Windowed]
  have chosen : before.select style.filter = .ok [1] := by decide +kernel
  have met : (before.editEach style.apply [1]).select edit.filter? = .ok [1] := by decide +kernel
  have styled : (changeProperties style).perform before =
      .affected (before.editEach style.apply [1]) [] 1 [] := by
    simp only [perform, ChangeProperties.perform, Reply.selecting, chosen]
    rfl
  obtain ⟨after, scaled, colors⟩ : ∃ after,
      edit.perform (before.editEach style.apply [1]) = .affected after [] 1 [] ∧
        after.entities.map Entity.color = [none, some 2, none] := by
    simp only [filter?, edit] at met
    simp only [perform, edit, Scale.perform, Reply.transforming, Reply.selecting, met]
    exact ⟨_, rfl, rfl⟩
  have forth : InTurn (.changeProperties style) edit before one one after := by
    refine ⟨congrArg Reply.answer styled, ?_, ?_⟩
    · rw [styled]
      exact congrArg Reply.answer scaled
    · rw [styled]
      exact congrArg Reply.drawing scaled
  exact ⟨after, forth, (perform_commutes blind (by decide) before after one one).mp forth, colors⟩

end Action

end DrawingPlan
