import DrawingPlan.Proofs.Except
import DrawingPlan.Proofs.Plan.WellFormed

set_option autoImplicit false

namespace DrawingPlan

inductive Slot where
  | start
  | finish
  | points
  | closed
  | base
  | center
  | position
  | offset
  | width
  | height
  | radius
  | sides
  | scale
  | factor
  | rotation
  | angle
  | name
  | attributes
  | layer
  | filter
  | targetLayer
  | color
  | linetype
  | linetypeScale
deriving DecidableEq, Repr

namespace Slot

def key : Slot → String
  | .start => "from"
  | .finish => "to"
  | .points => "points"
  | .closed => "closed"
  | .base => "base"
  | .center => "center"
  | .position => "position"
  | .offset => "offset"
  | .width => "width"
  | .height => "height"
  | .radius => "radius"
  | .sides => "sides"
  | .scale => "scale"
  | .factor => "factor"
  | .rotation => "rotation"
  | .angle => "angle"
  | .name => "name"
  | .attributes => "attributes"
  | .layer => "layer"
  | .filter => "filter"
  | .targetLayer => "targetLayer"
  | .color => "colorIndex"
  | .linetype => "linetype"
  | .linetypeScale => "linetypeScale"

abbrev Value (α : Type) : Slot → Type
  | .start | .finish | .base | .center | .position | .offset => Point α
  | .points => List (Point α)
  | .closed => Bool
  | .width | .height | .radius | .scale | .factor | .rotation | .angle => α
  | .sides => Nat
  | .name | .layer => Text
  | .attributes => List (Text × Text)
  | .filter => Option (Filter α)
  | .targetLayer | .linetype => Option Text
  | .color => Option Int
  | .linetypeScale => Option α

end Slot

def ActionKind.slots : ActionKind → List Slot
  | .line => [.start, .finish, .layer]
  | .polyline => [.points, .layer, .closed]
  | .rectangle => [.base, .width, .height, .rotation, .layer]
  | .circle => [.center, .radius, .layer]
  | .polygon => [.center, .radius, .sides, .rotation, .layer]
  | .insertBlock => [.name, .position, .scale, .rotation, .layer, .attributes]
  | .move => [.filter, .offset]
  | .rotate => [.filter, .base, .angle]
  | .scale => [.filter, .base, .factor]
  | .erase => [.filter]
  | .changeLayer => [.filter, .targetLayer]
  | .changeProperties => [.filter, .color, .linetype, .linetypeScale]

theorem ActionKind.nodup_keys (kind : ActionKind) : (kind.slots.map Slot.key).Nodup := by
  cases kind <;> decide

theorem ActionKind.filter_mem_slots {kind : ActionKind} :
    Slot.filter ∈ kind.slots ↔ kind ∈ editing := by
  cases kind <;> decide

theorem ActionKind.color_mem_slots {kind : ActionKind} :
    Slot.color ∈ kind.slots ↔ kind = .changeProperties := by
  cases kind <;> decide

namespace Action

variable {α : Type}

def value? (action : Action α) (slot : Slot) : Option (slot.Value α) :=
  match action, slot with
  | .line action, .start => some action.start
  | .line action, .finish => some action.finish
  | .line action, .layer => some action.layer
  | .polyline action, .points => some action.points
  | .polyline action, .closed => some action.closed
  | .polyline action, .layer => some action.layer
  | .rectangle action, .base => some action.base
  | .rectangle action, .width => some action.width
  | .rectangle action, .height => some action.height
  | .rectangle action, .rotation => some action.rotation
  | .rectangle action, .layer => some action.layer
  | .circle action, .center => some action.center
  | .circle action, .radius => some action.radius
  | .circle action, .layer => some action.layer
  | .polygon action, .center => some action.center
  | .polygon action, .radius => some action.radius
  | .polygon action, .sides => some action.sides
  | .polygon action, .rotation => some action.rotation
  | .polygon action, .layer => some action.layer
  | .insertBlock action, .name => some action.name
  | .insertBlock action, .position => some action.position
  | .insertBlock action, .scale => some action.scale
  | .insertBlock action, .rotation => some action.rotation
  | .insertBlock action, .layer => some action.layer
  | .insertBlock action, .attributes => some action.attributes
  | .move action, .filter => some action.filter
  | .move action, .offset => some action.offset
  | .rotate action, .filter => some action.filter
  | .rotate action, .base => some action.base
  | .rotate action, .angle => some action.angle
  | .scale action, .filter => some action.filter
  | .scale action, .base => some action.base
  | .scale action, .factor => some action.factor
  | .erase action, .filter => some action.filter
  | .changeLayer action, .filter => some action.filter
  | .changeLayer action, .targetLayer => some action.targetLayer
  | .changeProperties action, .filter => some action.filter
  | .changeProperties action, .color => some action.color
  | .changeProperties action, .linetype => some action.linetype
  | .changeProperties action, .linetypeScale => some action.linetypeScale
  | _, _ => none

theorem isSome_value? (action : Action α) (slot : Slot) :
    (action.value? slot).isSome = decide (slot ∈ action.kind.slots) := by
  cases action <;> cases slot <;> rfl

theorem value?_eq_none {action : Action α} {slot : Slot} (foreign : slot ∉ action.kind.slots) :
    action.value? slot = none := by
  rw [← Option.isNone_iff_eq_none, ← Option.isSome_eq_false_iff, isSome_value?]
  exact decide_eq_false foreign

theorem eq_of_values {first second : Action α} (kinds : first.kind = second.kind)
    (same : ∀ slot ∈ first.kind.slots, first.value? slot = second.value? slot) :
    first = second := by
  cases first <;> cases second <;> cases kinds <;> rename_i a b <;> cases a <;> cases b <;>
    simp only [kind, ActionKind.slots, List.forall_mem_cons] at same
  -- One equation for each slot; what is left over is about no slot.
  all_goals
    repeat obtain ⟨⟨⟩, same⟩ := same
    rfl

end Action

namespace Slot

open DrawingPlan.Field

def read? (obj : Json) : (slot : Slot) → Option (slot.Value Float)
  | .start => some (point obj "from" Point.origin)
  | .finish => some (point obj "to" ⟨Scalar.ofNat 100, 0⟩)
  | .points => some (DrawPolyline.read obj).points
  | .closed => some (DrawPolyline.read obj).closed
  | .base => some (point obj "base" Point.origin)
  | .center => some (point obj "center" Point.origin)
  | .position => some (point obj "position" Point.origin)
  | .offset => some (point obj "offset" Point.origin)
  | .width => some (number obj "width" (Scalar.ofNat 100))
  | .height => some (number obj "height" (Scalar.ofNat 100))
  | .radius => some (number obj "radius" (Scalar.ofNat 50))
  | .sides => some (sidesOf (number obj "sides" (Scalar.ofNat 6)))
  | .scale => some (number obj "scale" 1)
  | .factor => some (number obj "factor" 1)
  | .rotation => some (Scalar.radians (number obj "rotation" 0) : Float)
  | .angle => some (Scalar.radians (number obj "angle" 0) : Float)
  | .name => some ((text? obj "name").getD "")
  | .attributes => some (attributeTexts obj)
  | .layer => some (layerName obj)
  | .filter => (Field.filter obj).toOption
  | .targetLayer => some (text? obj "targetLayer")
  | .color => (integer? (obj.field "colorIndex")).toOption
  | .linetype => some (text? obj "linetype")
  | .linetypeScale => some (number? (obj.field "linetypeScale"))

theorem read?_congr {first second : Json} {slot : Slot}
    (same : first.field slot.key = second.field slot.key) :
    slot.read? first = slot.read? second := by
  cases slot <;> simp only [key] at same <;>
    simp only [read?, DrawPolyline.read, point, number, text?, attributeTexts, layerName,
      Field.filter, same]

theorem read?_filter {obj : Json} {found : Option (Filter Float)}
    (read : Field.filter obj = .ok found) : Slot.filter.read? obj = some found := by
  simp only [read?, read, Except.toOption]

theorem read?_color {obj : Json} {found : Option Int}
    (read : integer? (obj.field "colorIndex") = .ok found) : Slot.color.read? obj = some found := by
  simp only [read?, read, Except.toOption]

end Slot

theorem ChangeProperties.color_of_read? {filter : Option (Filter Float)} {obj : Json}
    {action : ChangeProperties Float} (read : read? filter obj = .ok action) :
    Field.integer? (obj.field "colorIndex") = .ok action.color := by
  obtain ⟨color, given, rest⟩ := bind_ok read
  cases rest
  exact given

namespace Action

theorem ReadFrom.value? {obj : Json} {action : Action Float} (source : action.ReadFrom obj) :
    ∀ slot ∈ action.kind.slots, action.value? slot = slot.read? obj := by
  cases source with
  | line | polyline | circle =>
    simp only [kind, ActionKind.slots, List.forall_mem_cons]
    exact ⟨rfl, rfl, rfl, List.forall_mem_nil _⟩
  | rectangle | polygon =>
    simp only [kind, ActionKind.slots, List.forall_mem_cons]
    exact ⟨rfl, rfl, rfl, rfl, rfl, List.forall_mem_nil _⟩
  | insertBlock =>
    simp only [kind, ActionKind.slots, List.forall_mem_cons]
    exact ⟨rfl, rfl, rfl, rfl, rfl, rfl, List.forall_mem_nil _⟩
  | move found | changeLayer found =>
    simp only [kind, ActionKind.slots, List.forall_mem_cons]
    exact ⟨(Slot.read?_filter found).symm, rfl, List.forall_mem_nil _⟩
  | rotate found | scale found =>
    simp only [kind, ActionKind.slots, List.forall_mem_cons]
    exact ⟨(Slot.read?_filter found).symm, rfl, rfl, List.forall_mem_nil _⟩
  | erase found =>
    simp only [kind, ActionKind.slots, List.forall_mem_cons]
    exact ⟨(Slot.read?_filter found).symm, List.forall_mem_nil _⟩
  | changeProperties found read =>
    have color := ChangeProperties.color_of_read? read
    obtain ⟨rfl, linetype, scale⟩ := ChangeProperties.read?_ok read
    simp only [kind, ActionKind.slots, List.forall_mem_cons]
    exact ⟨(Slot.read?_filter found).symm, (Slot.read?_color color).symm, congrArg some linetype,
      congrArg some scale, List.forall_mem_nil _⟩

theorem kind_of_readAs {written : Text} {obj : Json} {kind : ActionKind} {action : Action Float}
    (read : readAs written obj kind = .ok (.ok action)) : action.kind = kind := by
  cases kind with
  | line | polyline | rectangle | circle | insertBlock =>
    cases read
    rfl
  | polygon =>
    rw [readAs, DrawPolygon.read?_eq] at read
    cases read
    rfl
  | move | rotate | scale | erase | changeLayer =>
    obtain ⟨filter, -, ⟨⟩⟩ := withFilter_ok read
    rfl
  | changeProperties =>
    obtain ⟨filter, -, built⟩ := withFilter_ok read
    cases changed : ChangeProperties.read? filter obj <;> rw [changed] at built <;> cases built
    rfl

theorem values_of_readAs {written : Text} {obj : Json} {kind : ActionKind} {action : Action Float}
    (read : readAs written obj kind = .ok (.ok action)) :
    ∀ slot ∈ kind.slots, action.value? slot = slot.read? obj :=
  kind_of_readAs read ▸ (readFrom_of_readAs read).value?

theorem decode_eq_readAs {item : Json} {written : Text} {kind : ActionKind}
    (named : item.field "action" = .text written) (known : kindOf? written = some kind) :
    decode item = readAs written item kind := by
  cases item with
  | object fields => simp only [decode, named, known]
  | _ => cases named

end Action

theorem withFilter_skip_iff {kind : Text} {obj : Json} {skip : Skip}
    {build : Option (Filter Float) → Except Fault (Action Float)} :
    withFilter kind obj build = .ok (.error skip) ↔
      ∃ typeName, Field.filter obj = .error typeName ∧ skip = .malformedFilter kind typeName := by
  cases found : Field.filter obj with
  | error typeName => simp [withFilter, found, eq_comm]
  | ok filter => cases built : build filter <;> simp [withFilter, found, built, Except.map]

theorem Action.readAs_skip_iff {written : Text} {obj : Json} {kind : ActionKind} {skip : Skip} :
    readAs written obj kind = .ok (.error skip) ↔ kind ∈ ActionKind.editing ∧
      ∃ typeName, Field.filter obj = .error typeName ∧
        skip = .malformedFilter written typeName := by
  cases kind <;>
    simp [readAs, withFilter_skip_iff, ActionKind.editing, DrawPolygon.read?_eq, Except.map]

theorem Action.exists_of_reads (written : Text) {obj : Json} {kind : ActionKind}
    (reads : ∀ slot ∈ kind.slots, (slot.read? obj).isSome = true) :
    ∃ action, readAs written obj kind = .ok (.ok action) := by
  -- An action is missing only where the filter or the colour gives nothing.
  match result : readAs written obj kind with
  | .ok (.ok action) => exact ⟨action, rfl⟩
  | .ok (.error skip) =>
    obtain ⟨edits, typeName, malformed, -⟩ := readAs_skip_iff.mp result
    have given := reads .filter (ActionKind.filter_mem_slots.mpr edits)
    simp [Slot.read?, malformed, Except.toOption] at given
  | .error fault =>
    obtain ⟨changes, -, overlong⟩ := readAs_error_iff.mp result
    have given := reads .color (ActionKind.color_mem_slots.mpr changes)
    simp [Slot.read?, overlong, Except.toOption] at given

end DrawingPlan
