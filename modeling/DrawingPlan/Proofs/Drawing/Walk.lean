import DrawingPlan.Proofs.Drawing.Change
import DrawingPlan.Proofs.Drawing.Selection

set_option autoImplicit false

namespace DrawingPlan

variable {α σ : Type}

def Change.edits (change : Change α) (place : Nat) (entity : Entity α) : Entity α :=
  match change with
  | .erase other => if other = place then { entity with deleted := true } else entity
  | .edit other how => if other = place then how entity else entity
  | .append _ | .addLayer _ | .ensureLayer _ | .editRecord .. | .addBlock _ => entity

def Change.appended? : Change α → Option (Entity α)
  | .append entity => some entity
  | .erase _ | .edit .. | .addLayer _ | .ensureLayer _ | .editRecord .. | .addBlock _ => none

def Entity.changed (entity : Entity α) (place : Nat) (changes : List (Change α)) : Entity α :=
  changes.foldl (fun reached change => change.edits place reached) entity

namespace Drawing

theorem entity_of_apply {drawing : Drawing α} {place : Nat} {entity : Entity α}
    (found : drawing.entities[place]? = some entity) (change : Change α) :
    (change.apply drawing).entities[place]? = some (change.edits place entity) := by
  cases change with
  | append other =>
    obtain ⟨inside, -⟩ := List.getElem?_eq_some_iff.mp found
    simp [Change.apply, append, Change.edits, List.getElem?_append_left inside, found]
  | erase other | edit other how =>
    by_cases same : other = place <;>
      simp [Change.apply, erase, editEntity, Change.edits, found, same]
  | addLayer layer | ensureLayer name | editRecord number how | addBlock definition => exact found

theorem entity_of_changed {drawing : Drawing α} {place : Nat} {entity : Entity α}
    (found : drawing.entities[place]? = some entity) (changes : List (Change α)) :
    (drawing.changed changes).entities[place]? = some (entity.changed place changes) := by
  induction changes generalizing drawing entity with
  | nil => exact found
  | cons change rest ih => exact ih (entity_of_apply found change)

theorem length_changed (drawing : Drawing α) (changes : List (Change α)) :
    (drawing.changed changes).entities.length =
      drawing.entities.length + (changes.filterMap Change.appended?).length := by
  induction changes generalizing drawing with
  | nil => rfl
  | cons change rest ih =>
    rw [changed_cons, ih]
    cases change with
    | append entity =>
      simp only [Change.apply, append, List.length_append, List.length_cons, List.length_nil,
        List.filterMap_cons, Change.appended?]
      omega
    | erase place | edit place how =>
      simp [Change.apply, erase, editEntity, List.filterMap_cons, Change.appended?]
    | addLayer layer | ensureLayer name | editRecord number how | addBlock definition => rfl

theorem appended_of_changed (drawing : Drawing α) (first later : List (Change α))
    (entity : Entity α) :
    let place := drawing.entities.length + (first.filterMap Change.appended?).length
    (drawing.changed (first ++ .append entity :: later)).entities[place]? =
      some (entity.changed place later) := by
  intro place
  have last : ((drawing.changed first).append entity).entities[place]? = some entity := by
    simp [append, place, ← length_changed]
  rw [changed_append, changed_cons]
  exact entity_of_changed last later

end Drawing

/-- Where it is sent, a visitor changes the drawing by what it finds there and what it remembers. -/
structure Visitor (α σ : Type) where
  changes : Nat → σ → Drawing α → List (Change α)
  memory : Nat → σ → Drawing α → σ

structure Visit (α σ : Type) where
  place : Nat
  found : Drawing α
  memory : σ

structure Walk (α σ : Type) where
  drawing : Drawing α
  memory : σ
  visits : List (Visit α σ) := []

namespace Visitor

variable (visitor : Visitor α σ)

def madeIn (visits : List (Visit α σ)) : List (Change α) :=
  visits.flatMap fun visit => visitor.changes visit.place visit.memory visit.found

def onward (walk : Walk α σ) (place : Nat) : Walk α σ where
  drawing := walk.drawing.changed (visitor.changes place walk.memory walk.drawing)
  memory := visitor.memory place walk.memory walk.drawing
  visits := walk.visits ++ [⟨place, walk.drawing, walk.memory⟩]

def visit (place : Nat) : StateM (Walk α σ) PUnit :=
  modify fun walk => visitor.onward walk place

theorem run_forM (places : List Nat) (walk : Walk α σ) :
    ((places.forM visitor.visit).run walk).2 = places.foldl visitor.onward walk := by
  induction places generalizing walk with
  | nil => rfl
  | cons place rest ih => exact ih (visitor.onward walk place)

-- The invariant of a walk from `start` that went to some places so far.
structure Came (start : Drawing α) (places : List Nat) (walk : Walk α σ) : Prop where
  visited : walk.visits.map Visit.place = places
  found : ∀ turn visit, walk.visits[turn]? = some visit →
    visit.found = start.changed (visitor.madeIn (walk.visits.take turn))
  kept : walk.drawing = start.changed (visitor.madeIn walk.visits)

variable {visitor}

theorem Came.onward {start : Drawing α} {places : List Nat} {walk : Walk α σ}
    (came : visitor.Came start places walk) (place : Nat) :
    visitor.Came start (places ++ [place]) (visitor.onward walk place) where
  visited := by simp [Visitor.onward, came.visited]
  found turn visit there := by
    simp only [Visitor.onward] at there ⊢
    rcases Nat.lt_trichotomy turn walk.visits.length with earlier | rfl | beyond
    · rw [List.getElem?_append_left earlier] at there
      rw [List.take_append_of_le_length (Nat.le_of_lt earlier)]
      exact came.found turn visit there
    · obtain rfl : ⟨place, walk.drawing, walk.memory⟩ = visit := by simpa using there
      simpa using came.kept
    · rw [List.getElem?_eq_none (by simp; omega)] at there
      cases there
  kept := by
    simp [Visitor.onward, madeIn, came.kept, Drawing.changed_append]

theorem Came.foldl {start : Drawing α} {places : List Nat} {walk : Walk α σ}
    (came : visitor.Came start places walk) (rest : List Nat) :
    visitor.Came start (places ++ rest) (rest.foldl visitor.onward walk) := by
  induction rest generalizing places walk with
  | nil => simpa using came
  | cons place others ih => simpa using ih (came.onward place)

end Visitor

namespace Drawing

def walk (start : Drawing α) (visitor : Visitor α σ) (memory : σ) : Walk α σ :=
  ((start.forEachLive visitor.visit).run ⟨start, memory, []⟩).2

theorem came_walk (start : Drawing α) (visitor : Visitor α σ) (memory : σ) :
    visitor.Came start start.liveIndexes (start.walk visitor memory) := by
  have begun : visitor.Came start [] ⟨start, memory, []⟩ := ⟨rfl, by simp, rfl⟩
  rw [walk, forEachLive, visitor.run_forM]
  exact begun.foldl start.liveIndexes

/--
The places of the entities that are live at first are visited, each once and in drawing order. Every
visit finds the drawing with all that was changed before it, and the entity in its place is that of
the start with the edits that were made to it. At the end the entities of the start and those that
were appended are all there, with what was changed of each.
-/
theorem walk_visits_live (start : Drawing α) (visitor : Visitor α σ) (memory : σ) :
    let walk := start.walk visitor memory
    let places := walk.visits.map Visit.place
    places.Pairwise (· < ·) ∧
      (∀ place, place ∈ places ↔
        ∃ entity, start.entities[place]? = some entity ∧ entity.deleted = false) ∧
      (∀ turn visit, walk.visits[turn]? = some visit →
        let made := visitor.madeIn (walk.visits.take turn)
        visit.found = start.changed made ∧
          ∃ entity, start.entities[visit.place]? = some entity ∧ entity.deleted = false ∧
            visit.found.entities[visit.place]? = some (entity.changed visit.place made)) ∧
      let made := visitor.madeIn walk.visits
      walk.drawing = start.changed made ∧
      (∀ place (entity : Entity α), start.entities[place]? = some entity →
        walk.drawing.entities[place]? = some (entity.changed place made)) ∧
      ∀ first (entity : Entity α) later, made = first ++ .append entity :: later →
        let place := start.entities.length + (first.filterMap Change.appended?).length
        walk.drawing.entities[place]? = some (entity.changed place later) := by
  intro walk places
  have came := start.came_walk visitor memory
  have live : places = start.liveIndexes := came.visited
  refine ⟨live ▸ start.pairwise_liveIndexes, fun place => ?_, fun turn visit there => ?_,
    came.kept, fun place entity there => ?_, fun first entity later same => ?_⟩
  · rw [live, mem_liveIndexes]
  · have found := came.found turn visit there
    have member : visit.place ∈ start.liveIndexes :=
      live ▸ List.mem_map.mpr ⟨visit, List.mem_of_getElem? there, rfl⟩
    obtain ⟨entity, held, alive⟩ := mem_liveIndexes.mp member
    exact ⟨found, entity, held, alive, found ▸ entity_of_changed held _⟩
  · rw [came.kept]
    exact entity_of_changed there _
  · have kept : walk.drawing = start.changed (first ++ .append entity :: later) := same ▸ came.kept
    rw [kept]
    exact start.appended_of_changed first later entity

-- The second live entity is erased before its turn and visited all the same; new ones are not.
example :
    let entity : Entity Nat := { geometry := none }
    let start : Drawing Nat :=
      { linetypeScale := 1, entities := [entity, { entity with deleted := true }, entity] }
    let visitor : Visitor Nat Unit :=
      ⟨fun place _ _ => [.append entity, .erase (place + 2)], fun _ _ _ => ()⟩
    let walk := start.walk visitor ()
    walk.visits.map Visit.place = [0, 2] ∧ walk.drawing.entities.length = 5 :=
  ⟨rfl, rfl⟩

end Drawing

end DrawingPlan
