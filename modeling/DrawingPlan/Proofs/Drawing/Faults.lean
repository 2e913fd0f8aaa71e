import DrawingPlan.Plane.Outline
import DrawingPlan.Proofs.Drawing.Verdicts
import DrawingPlan.Proofs.Number.Angle

set_option autoImplicit false

namespace DrawingPlan

open DrawingPlan.Number

section Transforms

variable {α : Type} [Scalar α] {t : Transform α} {fault : Fault}

omit [Scalar α] in
theorem mapM_place_error {vertices : List (Point α)}
    (failed : vertices.mapM t.place = .error fault) : ∃ p, t.place p = .error fault := by
  obtain ⟨p, -, own⟩ := mapM_error failed
  exact ⟨p, own⟩

theorem BlockReference.transform_error {reference : BlockReference α}
    (failed : reference.transform t = .error fault) : ∃ p, t.place p = .error fault := by
  rcases bind_error failed with own | ⟨insertion, -, later⟩
  · exact ⟨_, own⟩
  · rcases bind_error later with moved | ⟨attributes, -, ended⟩
    · obtain ⟨field, -, own⟩ := mapM_error moved
      rcases bind_error own with place | ⟨position, -, ended⟩
      · exact ⟨_, place⟩
      · cases ended
    · cases ended

theorem Geometry.transform_error {geometry : Geometry α}
    (failed : geometry.transform t = .error fault) : ∃ p, t.place p = .error fault := by
  cases geometry with
  | line start finish =>
    rcases bind_error failed with first | ⟨_, -, later⟩
    · exact ⟨_, first⟩
    · rcases bind_error later with second | ⟨_, -, ended⟩
      · exact ⟨_, second⟩
      · cases ended
  | polyline vertices closed =>
    rcases bind_error failed with placed | ⟨_, -, ended⟩
    · exact mapM_place_error placed
    · cases ended
  | circle center radius =>
    rcases bind_error failed with placed | ⟨_, -, ended⟩
    · exact ⟨_, placed⟩
    · cases ended
  | blockReference reference =>
    rcases bind_error failed with moved | ⟨_, -, ended⟩
    · exact BlockReference.transform_error moved
    · cases ended

theorem Entity.transform_error {entity : Entity α} (shaped : entity.geometry.isSome)
    (failed : entity.transform t = .error fault) : ∃ p, t.place p = .error fault := by
  obtain ⟨geometry, shape⟩ := Option.isSome_iff_exists.mp shaped
  simp only [Entity.transform, shape] at failed
  rcases bind_error failed with own | ⟨_, -, ended⟩
  · exact Geometry.transform_error own
  · cases ended

end Transforms

theorem Point.rotate_error {p center : Point Float} {angle : Float} {fault : Fault}
    (failed : p.rotate center angle = .error fault) :
    fault = .angle ∧ isInfinite angle = true := by
  unfold Point.rotate at failed
  split at failed
  · cases failed
  · next undefined => exact ⟨(Except.error.inj failed).symm, isInfinite_of_undefined undefined⟩

theorem Outline.rectangle_error {base : Point Float} {width height rotation : Float}
    {fault : Fault} (failed : rectangle base width height rotation = .error fault) :
    fault = .angle ∧ isInfinite rotation = true := by
  unfold rectangle at failed
  split at failed
  · cases failed
  · obtain ⟨corner, -, own⟩ := mapM_error failed
    exact Point.rotate_error own

theorem Outline.polygon_error {center : Point Float} {radius rotation : Float} {sides : Nat}
    {fault : Fault} (failed : polygon center radius sides rotation = .error fault) :
    ∃ i < sides, isInfinite (Scalar.ofNat 2 * Scalar.pi * Scalar.ofNat i / Scalar.ofNat sides +
      rotation) = true := by
  obtain ⟨i, inside, own⟩ := mapM_error failed
  refine ⟨i, List.mem_range.mp inside, ?_⟩
  simp only [polygonVertex] at own
  split at own
  · cases own
  · next undefined => exact isInfinite_of_undefined undefined

namespace BlockReference

theorem place_error {reference : BlockReference Float} {p : Point Float} {fault : Fault}
    (failed : reference.placement.place p = .error fault) :
    fault = .angle ∧ isInfinite reference.rotation = true := by
  rcases bind_error failed with turned | ⟨_, -, ended⟩
  · exact Point.rotate_error turned
  · cases ended

/--
Whether the content of a reference cannot be placed: its rotation is infinite, or that of a
reference in its block, once that is placed itself.
-/
inductive TurnsInfinitely : BlockReference Float → Prop
  | own {reference : BlockReference Float} (infinite : isInfinite reference.rotation = true) :
      TurnsInfinitely reference
  | inner {reference inner placed : BlockReference Float} {definition : BlockDefinition Float}
      (defined : reference.definition = some definition)
      (item : .blockReference inner ∈ definition.items)
      (transformed : inner.transform reference.placement = .ok placed)
      (turns : TurnsInfinitely placed) : TurnsInfinitely reference

end BlockReference

def Geometry.Fails (t : Transform Float) (geometry : Geometry Float) (fault : Fault) : Prop :=
  (∃ p, t.place p = .error fault) ∨ fault = .angle ∧ ∃ inner placed,
    geometry = .blockReference inner ∧ inner.transform t = .ok placed ∧ placed.TurnsInfinitely

-- The recursion is that of the boxes: through the items of blocks, and the blocks they refer to.
mutual

theorem Geometry.boxUnder_error (t : Transform Float) {fault : Fault} :
    ∀ geometry : Geometry Float, geometry.boxUnder t = .error fault → geometry.Fails t fault
  | .line start finish, failed => by
    rcases bind_error failed with first | ⟨_, -, later⟩
    · exact .inl ⟨_, first⟩
    · rcases bind_error later with second | ⟨_, -, ended⟩
      · exact .inl ⟨_, second⟩
      · cases ended
  | .polyline vertices closed, failed => by
    rcases bind_error failed with placed | ⟨_, -, ended⟩
    · exact .inl (mapM_place_error placed)
    · cases ended
  | .circle center radius, failed => by
    rcases bind_error failed with placed | ⟨_, -, ended⟩
    · exact .inl ⟨_, placed⟩
    · cases ended
  | .blockReference reference, failed => by
    rcases BlockReference.boxUnder_error t reference failed with own | inner
    · exact .inl own
    · obtain ⟨rfl, placed, transformed, turns⟩ := inner
      exact .inr ⟨rfl, reference, placed, rfl, transformed, turns⟩

theorem BlockReference.boxUnder_error (t : Transform Float) {fault : Fault} :
    ∀ reference : BlockReference Float, reference.boxUnder t = .error fault →
      (∃ p, t.place p = .error fault) ∨
        fault = .angle ∧ ∃ placed, reference.transform t = .ok placed ∧ placed.TurnsInfinitely
  | ⟨name, insertion, scale, rotation, attributes, definition⟩, failed => by
    rcases bind_error failed with moved | ⟨placed, transformed, later⟩
    · exact .inl (BlockReference.transform_error moved)
    · have same := BlockReference.definition_of_transform transformed
      obtain ⟨rfl, turns⟩ := contentBox_error definition placed same later
      exact .inr ⟨rfl, placed, transformed, turns⟩

theorem contentBox_error {fault : Fault} :
    ∀ (definition : Option (BlockDefinition Float)) (outer : BlockReference Float),
      outer.definition = definition → contentBox outer.placement definition = .error fault →
        fault = .angle ∧ outer.TurnsInfinitely
  | none, outer, same, failed => by cases failed
  | some ⟨name, base, items, attributes, serial⟩, outer, same, failed => by
    obtain ⟨item, inside, fails⟩ := itemsBox_error outer.placement items none failed
    rcases fails with ⟨p, own⟩ | ⟨rfl, inner, placed, rfl, transformed, turns⟩
    · exact (BlockReference.place_error own).imp id .own
    · exact ⟨rfl, .inner same inside transformed turns⟩

theorem itemsBox_error (t : Transform Float) {fault : Fault} :
    ∀ (items : List (Geometry Float)) (found : Option (Box Float)),
      itemsBox t found items = .error fault → ∃ item ∈ items, item.Fails t fault
  | [], found, failed => by cases failed
  | item :: rest, found, failed => by
    rcases bind_error failed with own | ⟨box, -, later⟩
    · exact ⟨item, by simp, Geometry.boxUnder_error t item own⟩
    · obtain ⟨other, inside, fails⟩ := itemsBox_error t rest _ later
      exact ⟨other, List.mem_cons_of_mem _ inside, fails⟩

end

theorem Entity.box_error {entity : Entity Float} {fault : Fault}
    (failed : entity.box = .error fault) :
    fault = .angle ∧ ∃ reference, entity.geometry = some (.blockReference reference) ∧
      reference.TurnsInfinitely := by
  cases shape : entity.geometry with
  | none => simp [Entity.box, shape] at failed
  | some geometry =>
    simp only [Entity.box, shape] at failed
    cases geometry with
    | line start finish | polyline vertices closed | circle center radius => cases failed
    | blockReference reference =>
      obtain ⟨rfl, turns⟩ := contentBox_error reference.definition reference rfl failed
      exact ⟨rfl, reference, rfl, turns⟩

def Drawing.Shaped {α : Type} (drawing : Drawing α) : Prop :=
  ∀ entity ∈ drawing.entities, entity.geometry.isSome

structure Filter.StuckOn (filter : Filter Float) (entity : Entity Float) : Prop where
  live : entity.deleted = false
  fails : filter.accepts entity = .error .angle
  windowed : filter.window.isSome ∨ filter.crossing.isSome
  turns : ∃ reference, entity.geometry = some (.blockReference reference) ∧
    reference.TurnsInfinitely

def Drawing.Stuck (drawing : Drawing Float) (filter : Option (Filter Float)) : Prop :=
  ∃ found, filter = some found ∧ ∃ entity ∈ drawing.entities, found.StuckOn entity

theorem Filter.acceptsPlace_error {filter : Filter Float} {entity : Entity Float} {fault : Fault}
    (failed : filter.acceptsPlace entity = .error fault) :
    fault = .angle ∧ (filter.window.isSome ∨ filter.crossing.isSome) ∧
      ∃ reference, entity.geometry = some (.blockReference reference) ∧
        reference.TurnsInfinitely := by
  obtain ⟨windowed, unboxed⟩ := acceptsPlace_error_iff.mp failed
  obtain ⟨rfl, turns⟩ := Entity.box_error unboxed
  exact ⟨rfl, windowed, turns⟩

-- The tests come in turn: a layer never fails, a kind fails without geometry only.
theorem Filter.accepts_error {filter : Filter Float} {entity : Entity Float} {fault : Fault}
    (shaped : entity.geometry.isSome) (live : entity.deleted = false)
    (failed : filter.accepts entity = .error fault) :
    fault = .angle ∧ filter.StuckOn entity := by
  obtain ⟨-, unkinded | ⟨-, misplaced⟩⟩ := accepts_error_iff.mp failed
  · obtain ⟨-, -, bare⟩ := acceptsKind_error_iff.mp unkinded
    simp [bare] at shaped
  · obtain ⟨rfl, windowed, turns⟩ := acceptsPlace_error misplaced
    exact ⟨rfl, live, failed, windowed, turns⟩

theorem Filter.among_error {filter : Option (Filter Float)} {entries : List (Entity Float × Nat)}
    {fault : Fault} (shaped : ∀ entry ∈ entries, entry.1.geometry.isSome)
    (failed : among filter entries = .error fault) :
    fault = .angle ∧ ∃ found, filter = some found ∧ ∃ entry ∈ entries, found.StuckOn entry.1 := by
  induction entries with
  | nil => cases failed
  | cons entry rest ih =>
    obtain ⟨entity, index⟩ := entry
    obtain ⟨own, others⟩ := List.forall_mem_cons.mp shaped
    have later (stopped : among filter rest = .error fault) :
        fault = .angle ∧ ∃ found, filter = some found ∧
          ∃ entry ∈ (entity, index) :: rest, found.StuckOn entry.1 := by
      obtain ⟨rfl, found, same, entry, inside, stuck⟩ := ih others stopped
      exact ⟨rfl, found, same, entry, List.mem_cons_of_mem _ inside, stuck⟩
    unfold among at failed
    split at failed
    · exact later failed
    · next live =>
      rcases bind_error failed with first | ⟨accepted, -, next⟩
      · cases filter with
        | none => cases first
        | some filter =>
          obtain ⟨rfl, stuck⟩ := accepts_error own (by simpa using live) first
          exact ⟨rfl, filter, rfl, (entity, index), by simp, stuck⟩
      · rcases bind_error next with stopped | ⟨indexes, -, ended⟩
        · exact later stopped
        · cases ended

theorem Drawing.select_error {drawing : Drawing Float} {filter : Option (Filter Float)}
    {fault : Fault} (shaped : drawing.Shaped) (failed : drawing.select filter = .error fault) :
    fault = .angle ∧ drawing.Stuck filter := by
  have inside : ∀ entry ∈ drawing.entities.zipIdx, entry.1 ∈ drawing.entities := by
    intro entry member
    exact List.fst_mem_of_mem_zipIdx member
  obtain ⟨rfl, found, same, entry, member, stuck⟩ :=
    Filter.among_error (fun entry member => shaped _ (inside entry member)) failed
  exact ⟨rfl, found, same, entry.1, inside entry member, stuck⟩

end DrawingPlan
