import DrawingPlan.Proofs.Drawing.Similarity
import DrawingPlan.Proofs.Drawing.Verdicts

set_option autoImplicit false

namespace DrawingPlan

open DrawingPlan.Number

def Geometry.Pointed {α : Type} : Geometry α → Prop
  | .polyline vertices _ => vertices ≠ []
  | _ => True

/-- Whether geometry cannot be placed, or its content cannot, by a reference of that rotation. -/
inductive Geometry.Unplaceable : Float → Geometry Float → Prop
  | own {rotation : Float} {geometry : Geometry Float} (infinite : isInfinite rotation = true)
      (pointed : geometry.Pointed) : Unplaceable rotation geometry
  | inner {rotation : Float} {reference : BlockReference Float}
      {definition : BlockDefinition Float} {item : Geometry Float}
      (defined : reference.definition = some definition) (listed : item ∈ definition.items)
      (stuck : Unplaceable (reference.rotation + rotation) item) :
      Unplaceable rotation (.blockReference reference)

def BlockReference.Unboxable (reference : BlockReference Float) : Prop :=
  ∃ definition, reference.definition = some definition ∧
    ∃ item ∈ definition.items, item.Unplaceable reference.rotation

def Entity.Unboxable (entity : Entity Float) : Prop :=
  ∃ reference, entity.geometry = some (.blockReference reference) ∧ reference.Unboxable

inductive Filter.FailsOn (filter : Filter Float) (entity : Entity Float) : Fault → Prop
  | kindless (layer : filter.acceptsLayer entity = true) (asked : filter.kind.isSome)
      (bare : entity.geometry = none) : FailsOn filter entity .noGeometry
  | boxless (layer : filter.acceptsLayer entity = true)
      (kind : filter.acceptsKind entity = .ok true) (windowed : filter.Windowed)
      (unboxable : entity.Unboxable) : FailsOn filter entity .angle

section Placing

variable {outer : BlockReference Float} {fault : Fault}

theorem Point.rotate_of_infinite {p center : Point Float} {angle : Float}
    (infinite : isInfinite angle = true) : p.rotate center angle = .error .angle := by
  have cosine : Scalar.cos? angle = none := trigonometric_eq_none.mpr infinite
  rw [Point.rotate, cosine]

theorem BlockReference.place_of_infinite (infinite : isInfinite outer.rotation = true)
    (p : Point Float) : outer.placement.place p = .error .angle := by
  simp only [placement, Point.rotate_of_infinite infinite]
  rfl

theorem Geometry.boxUnder_of_infinite (infinite : isInfinite outer.rotation = true)
    {geometry : Geometry Float} (pointed : geometry.Pointed) :
    geometry.boxUnder outer.placement = .error .angle := by
  have place := BlockReference.place_of_infinite infinite
  cases geometry with
  | line start finish =>
    rw [boxUnder, place]
    rfl
  | polyline vertices closed =>
    cases vertices with
    | nil => exact absurd rfl pointed
    | cons first rest =>
      rw [boxUnder, List.mapM_cons, place]
      rfl
  | circle center radius =>
    rw [boxUnder, place]
    rfl
  | blockReference reference =>
    obtain ⟨name, insertion, scale, rotation, attributes, definition⟩ := reference
    rw [boxUnder, BlockReference.boxUnder, BlockReference.transform, place]
    rfl

theorem Geometry.boxUnder_error_iff_of_plain {geometry : Geometry Float}
    (plain : ∀ reference, geometry ≠ .blockReference reference) :
    geometry.boxUnder outer.placement = .error fault ↔
      fault = .angle ∧ geometry.Unplaceable outer.rotation := by
  constructor
  · intro failed
    rcases Geometry.boxUnder_error _ geometry failed with ⟨p, unplaced⟩ | ⟨-, inner, -, same, -⟩
    · obtain ⟨rfl, infinite⟩ := BlockReference.place_error unplaced
      refine ⟨rfl, .own infinite ?_⟩
      -- A polyline without vertices asks for no point.
      cases geometry with
      | polyline vertices closed =>
        rintro rfl
        cases failed
      | line | circle | blockReference => trivial
    · exact absurd same (plain inner)
  · rintro ⟨rfl, stuck⟩
    cases stuck with
    | own infinite pointed => exact boxUnder_of_infinite infinite pointed
    | inner => exact absurd rfl (plain _)

theorem Geometry.unplaceable_reference_iff {rotation : Float} {reference : BlockReference Float}
    (finite : isInfinite rotation ≠ true) :
    (Geometry.blockReference reference).Unplaceable rotation ↔
      ∃ definition, reference.definition = some definition ∧
        ∃ item ∈ definition.items, item.Unplaceable (reference.rotation + rotation) := by
  constructor
  · rintro (⟨infinite, -⟩ | ⟨defined, listed, stuck⟩)
    · exact absurd infinite finite
    · exact ⟨_, defined, _, listed, stuck⟩
  · rintro ⟨definition, defined, item, listed, stuck⟩
    exact .inner defined listed stuck

-- The recursion is that of the boxes. The reference through which the items are placed changes at
-- each reference on the way down, to that reference as the one above it has turned it.
mutual

theorem Geometry.boxUnder_error_iff (outer : BlockReference Float) {fault : Fault} :
    ∀ geometry : Geometry Float, geometry.boxUnder outer.placement = .error fault ↔
      fault = .angle ∧ geometry.Unplaceable outer.rotation
  | .line start finish => Geometry.boxUnder_error_iff_of_plain nofun
  | .polyline vertices closed => Geometry.boxUnder_error_iff_of_plain nofun
  | .circle center radius => Geometry.boxUnder_error_iff_of_plain nofun
  | .blockReference reference => BlockReference.boxUnder_error_iff outer reference

theorem BlockReference.boxUnder_error_iff (outer : BlockReference Float) {fault : Fault} :
    ∀ reference : BlockReference Float, reference.boxUnder outer.placement = .error fault ↔
      fault = .angle ∧ (Geometry.blockReference reference).Unplaceable outer.rotation
  | ⟨name, insertion, scale, rotation, attributes, definition⟩ => by
    by_cases infinite : isInfinite outer.rotation = true
    · have failed : BlockReference.boxUnder outer.placement
          ⟨name, insertion, scale, rotation, attributes, definition⟩ = .error .angle := by
        rw [← Geometry.boxUnder]
        exact Geometry.boxUnder_of_infinite infinite trivial
      rw [failed, Except.error.injEq, eq_comm]
      exact (and_iff_left (.own infinite trivial)).symm
    · rw [Geometry.unplaceable_reference_iff infinite, BlockReference.boxUnder]
      cases transformed : BlockReference.transform outer.placement
          ⟨name, insertion, scale, rotation, attributes, definition⟩ with
      | error other =>
        obtain ⟨p, unplaced⟩ := BlockReference.transform_error transformed
        exact absurd (BlockReference.place_error unplaced).2 infinite
      | ok moved =>
        have turned : moved.rotation = rotation + outer.rotation :=
          (BlockReference.carried_of_transform transformed).rotation
        rw [← turned]
        exact contentBox_error_iff moved definition

theorem contentBox_error_iff (outer : BlockReference Float) {fault : Fault} :
    ∀ definition : Option (BlockDefinition Float),
      contentBox outer.placement definition = .error fault ↔
        fault = .angle ∧ ∃ found, definition = some found ∧
          ∃ item ∈ found.items, item.Unplaceable outer.rotation
  | none => by simp [contentBox, pure, Except.pure]
  | some ⟨name, base, items, attributes, serial⟩ => by
    rw [contentBox, itemsBox_error_iff outer items none]
    simp only [Option.some.injEq, exists_eq_left']

theorem itemsBox_error_iff (outer : BlockReference Float) {fault : Fault} :
    ∀ (items : List (Geometry Float)) (found : Option (Box Float)),
      itemsBox outer.placement found items = .error fault ↔
        fault = .angle ∧ ∃ item ∈ items, item.Unplaceable outer.rotation
  | [], found => by simp [itemsBox, pure, Except.pure]
  | item :: rest, found => by
    have own {other : Fault} : item.boxUnder outer.placement = .error other ↔
        other = .angle ∧ item.Unplaceable outer.rotation := Geometry.boxUnder_error_iff outer item
    have others (box : Option (Box Float)) : itemsBox outer.placement box rest = .error fault ↔
        fault = .angle ∧ ∃ item ∈ rest, item.Unplaceable outer.rotation :=
      itemsBox_error_iff outer rest box
    simp only [itemsBox, bind_error_iff, own, others, List.exists_mem_cons_iff]
    constructor
    · rintro (⟨rfl, stuck⟩ | ⟨box, -, rfl, later⟩)
      · exact ⟨rfl, .inl stuck⟩
      · exact ⟨rfl, .inr later⟩
    · rintro ⟨rfl, stuck | later⟩
      · exact .inl ⟨rfl, stuck⟩
      · cases built : item.boxUnder outer.placement with
        | error other => exact .inl ⟨rfl, (own.mp built).2⟩
        | ok box => exact .inr ⟨box, rfl, rfl, later⟩

end

theorem Entity.box_error_iff {entity : Entity Float} :
    entity.box = .error fault ↔ fault = .angle ∧ entity.Unboxable := by
  unfold Entity.box Entity.Unboxable
  cases entity.geometry with
  | none => simp
  | some geometry =>
    cases geometry with
    | line | polyline | circle => simp [Geometry.box, pure, Except.pure]
    | blockReference reference =>
      simp only [Option.some.injEq, Geometry.blockReference.injEq, exists_eq_left']
      exact contentBox_error_iff reference reference.definition

theorem Filter.accepts_error_iff_failsOn {filter : Filter Float} {entity : Entity Float} :
    filter.accepts entity = .error fault ↔ filter.FailsOn entity fault := by
  rw [accepts_error_iff, acceptsKind_error_iff, acceptsPlace_error_iff, Entity.box_error_iff]
  constructor
  · rintro ⟨layer, ⟨rfl, asked, bare⟩ | ⟨kind, windowed, rfl, unboxable⟩⟩
    · exact .kindless layer asked bare
    · exact .boxless layer kind windowed unboxable
  · rintro (⟨layer, asked, bare⟩ | ⟨layer, kind, windowed, unboxable⟩)
    · exact ⟨layer, .inl ⟨rfl, asked, bare⟩⟩
    · exact ⟨layer, .inr ⟨kind, windowed, rfl, unboxable⟩⟩

end Placing

/--
A box fails for the entities that have none, and a filter for those that it cannot judge. One of
these among the live entities is enough for the selection to fail.
-/
theorem Filter.judgement_fails_iff (filter : Filter Float) :
    (∀ (entity : Entity Float) (fault : Fault),
      (entity.box = .error fault ↔ fault = .angle ∧ entity.Unboxable) ∧
        (filter.accepts entity = .error fault ↔ filter.FailsOn entity fault)) ∧
      ∀ drawing : Drawing Float, (∃ places, drawing.select (some filter) = .ok places) ↔
        ∀ entity ∈ drawing.liveEntities, ∀ fault, ¬filter.FailsOn entity fault := by
  refine ⟨fun entity fault => ⟨Entity.box_error_iff, accepts_error_iff_failsOn⟩, fun drawing => ?_⟩
  rw [Drawing.select_ok_iff]
  refine forall₂_congr fun entity _ => ?_
  simp only [acceptsAny, ← accepts_error_iff_failsOn]
  cases filter.accepts entity <;> simp

theorem Filter.fails_on_odd_entities :
    let block : BlockDefinition Float := ⟨"BOLT", ⟨0, 0⟩, [.line ⟨0, 0⟩ ⟨1, 1⟩], [], 0⟩
    let turned : Entity Float :=
      { geometry := some (.blockReference ⟨"BOLT", ⟨0, 0⟩, 1, 1 / 0, [], some block⟩) }
    let bare : Entity Float := { geometry := none }
    let drawing : Drawing Float :=
      { (Drawing.empty : Drawing Float) with entities := [turned, bare] }
    let window : Filter Float := { window := some (⟨0, 0⟩, ⟨1, 1⟩) }
    let lines : Filter Float := { kind := some "Line" }
    turned.box = .error .angle ∧ window.accepts turned = .error .angle ∧
      lines.accepts bare = .error .noGeometry ∧
      drawing.select (some window) = .error .angle ∧
      drawing.select (some lines) = .error .noGeometry := by
  decide +kernel

end DrawingPlan
