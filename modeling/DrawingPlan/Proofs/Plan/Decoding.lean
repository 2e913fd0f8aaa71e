import DrawingPlan.Plan.Decoding
import DrawingPlan.Proofs.Number.Decimal

set_option autoImplicit false

namespace DrawingPlan

def Json.Overlong (count : Nat) (json : Json) : Prop :=
  ∃ text, json = .text text ∧ Number.HasDigits count text ∧ Number.digitLimit < count

theorem Field.integer?_error_iff {json : Json} {fault : Fault} :
    integer? json = .error fault ↔ ∃ count, fault = .digits count ∧ json.Overlong count := by
  cases json with
  | text t =>
    constructor
    · intro failed
      cases read : Number.readInteger? t.trim.symbols with
      | none => simp [integer?, read] at failed
      | some found =>
        obtain ⟨negative, values⟩ := found
        by_cases long : Number.digitLimit < values.length
        · refine ⟨values.length, ?_, t, rfl, ?_, long⟩
          · simpa [integer?, read, Number.integerOf, long, eq_comm] using failed
          · exact (Number.hasDigits_iff (by omega)).mpr ⟨negative, values, read, rfl⟩
        · simp [integer?, read, Number.integerOf, long] at failed
    · rintro ⟨count, rfl, text, same, digits, long⟩
      obtain rfl := Json.text.inj same
      obtain ⟨negative, values, read, rfl⟩ := (Number.hasDigits_iff (by omega)).mp digits
      simp [integer?, read, Number.integerOf, long]
  | _ => simp [integer?, Json.Overlong]

structure Json.OverlongColor (count : Nat) (item : Json) : Prop where
  kind : ∃ written, item.field "action" = .text written ∧
    Action.kindOf? written = some .changeProperties
  filter : item.field "filter" = .null ∨ ∃ fields, item.field "filter" = .object fields
  color : (item.field "colorIndex").Overlong count

theorem Field.filter_ok_iff {obj : Json} :
    (∃ found, filter obj = .ok found) ↔
      obj.field "filter" = .null ∨ ∃ fields, obj.field "filter" = .object fields := by
  unfold filter
  split <;> simp_all

theorem withFilter_error_iff {kind : Text} {obj : Json} {fault : Fault}
    {build : Option (Filter Float) → Except Fault (Action Float)} :
    withFilter kind obj build = .error fault ↔
      ∃ filter, Field.filter obj = .ok filter ∧ build filter = .error fault := by
  cases found : Field.filter obj with
  | error typeName => simp [withFilter, found]
  | ok filter =>
    cases built : build filter <;> simp [withFilter, found, built, Except.map]

theorem ChangeProperties.read?_error_iff {filter : Option (Filter Float)} {obj : Json}
    {fault : Fault} :
    read? filter obj = .error fault ↔ Field.integer? (obj.field "colorIndex") = .error fault := by
  cases color : Field.integer? (obj.field "colorIndex") <;>
    simp [read?, color, Bind.bind, Except.bind, Pure.pure, Except.pure]

theorem sidesOf_bounds (x : Float) : 3 ≤ sidesOf x ∧ sidesOf x ≤ 1024 := by
  simp only [sidesOf, fewestSides, mostSides]
  omega

def DrawPolygon.read (obj : Json) : DrawPolygon Float where
  center := Field.point obj "center" standard.center
  radius := Field.number obj "radius" standard.radius
  sides := sidesOf (Field.number obj "sides" (Scalar.ofNat (standard : DrawPolygon Float).sides))
  rotation := Scalar.radians (Field.number obj "rotation" standard.rotation)
  layer := Field.layerName obj

theorem DrawPolygon.read?_eq (obj : Json) : read? obj = .ok (read obj) := by
  have enough : fewestSides ≤ (read obj).sides := (sidesOf_bounds _).1
  exact if_pos (Int.ofNat_le.mpr enough)

theorem Action.readAs_error_iff {written : Text} {obj : Json} {kind : ActionKind} {fault : Fault} :
    readAs written obj kind = .error fault ↔ kind = .changeProperties ∧
      (∃ filter, Field.filter obj = .ok filter) ∧
      Field.integer? (obj.field "colorIndex") = .error fault := by
  cases kind with
  | changeProperties =>
    rw [readAs, withFilter_error_iff]
    constructor
    · rintro ⟨filter, found, failed⟩
      cases read : ChangeProperties.read? filter obj with
      | error other =>
        rw [read] at failed
        cases failed
        exact ⟨rfl, ⟨filter, found⟩, ChangeProperties.read?_error_iff.mp read⟩
      | ok action =>
        rw [read] at failed
        cases failed
    · rintro ⟨-, ⟨filter, found⟩, failed⟩
      refine ⟨filter, found, ?_⟩
      rw [ChangeProperties.read?_error_iff.mpr failed]
      rfl
  | polygon => simp [readAs, DrawPolygon.read?_eq, Except.map]
  -- The reader of any other kind ends in an action, if the filter is sound.
  | _ => simp [readAs, withFilter_error_iff]

theorem Action.decode_error_iff {item : Json} {fault : Fault} :
    decode item = .error fault ↔ ∃ count, fault = .digits count ∧ item.OverlongColor count := by
  constructor
  · intro failed
    unfold decode at failed
    split at failed
    next fields =>
      split at failed
      next written named =>
        split at failed
        next kind known =>
          obtain ⟨rfl, found, color⟩ := readAs_error_iff.mp failed
          obtain ⟨count, rfl, overlong⟩ := Field.integer?_error_iff.mp color
          exact ⟨count, rfl, ⟨written, named, known⟩, Field.filter_ok_iff.mp found, overlong⟩
        next => cases failed
      next => cases failed
    next => cases failed
  · rintro ⟨count, rfl, ⟨written, named, known⟩, filter, color⟩
    cases item with
    | object fields =>
      simp only [decode, named, known]
      exact readAs_error_iff.mpr ⟨rfl, Field.filter_ok_iff.mpr filter,
        Field.integer?_error_iff.mpr ⟨count, rfl, color⟩⟩
    | _ => cases named

namespace Decoded

def FirstOverlong (count : Nat) (items : List Json) : Prop :=
  ∃ before item after, items = before ++ item :: after ∧ item.OverlongColor count ∧
    ∀ earlier ∈ before, ∀ size, ¬earlier.OverlongColor size

theorem firstOverlong_cons {count : Nat} {item : Json} {rest : List Json} :
    FirstOverlong count (item :: rest) ↔ item.OverlongColor count ∨
      (∀ size, ¬item.OverlongColor size) ∧ FirstOverlong count rest := by
  constructor
  · rintro ⟨before, first, after, same, overlong, none⟩
    cases before with
    | nil =>
      obtain ⟨rfl, rfl⟩ := List.cons.inj same
      exact Or.inl overlong
    | cons head before =>
      obtain ⟨rfl, rfl⟩ := List.cons.inj same
      exact Or.inr ⟨none item (by simp), before, first, after, rfl, overlong,
        fun earlier member => none earlier (List.mem_cons_of_mem _ member)⟩
  · rintro (overlong | ⟨none, before, first, after, rfl, overlong, earlierNone⟩)
    · exact ⟨[], item, rest, rfl, overlong, by simp⟩
    · refine ⟨item :: before, first, after, rfl, overlong, ?_⟩
      intro earlier member
      rcases List.mem_cons.mp member with rfl | later
      · exact none
      · exact earlierNone earlier later

theorem exists_firstOverlong_iff {items : List Json} :
    (∃ count, FirstOverlong count items) ↔ ∃ item ∈ items, ∃ count, item.OverlongColor count := by
  constructor
  · rintro ⟨count, before, item, after, rfl, overlong, -⟩
    exact ⟨item, by simp, count, overlong⟩
  · intro found
    induction items with
    | nil => simp at found
    | cons item rest ih =>
      by_cases own : ∃ count, item.OverlongColor count
      · obtain ⟨count, overlong⟩ := own
        exact ⟨count, firstOverlong_cons.mpr (Or.inl overlong)⟩
      · have later : ∃ other ∈ rest, ∃ count, other.OverlongColor count := by
          simpa [own] using found
        obtain ⟨count, first⟩ := ih later
        exact ⟨count, firstOverlong_cons.mpr (Or.inr ⟨not_exists.mp own, first⟩)⟩

theorem ofItems_error_iff {items : List Json} {fault : Fault} :
    (ofItems items).actions = .error fault ↔
      ∃ count, fault = .digits count ∧ FirstOverlong count items := by
  induction items with
  | nil => simp [ofItems, FirstOverlong]
  | cons item rest ih =>
    cases read : Action.decode item with
    -- Nothing is read after a fault, so that the first such item is the one that counts.
    | error other =>
      obtain ⟨count, rfl, overlong⟩ := Action.decode_error_iff.mp read
      simp only [ofItems, read]
      constructor
      · intro same
        obtain rfl := Except.error.inj same
        exact ⟨count, rfl, firstOverlong_cons.mpr (Or.inl overlong)⟩
      · rintro ⟨size, rfl, first⟩
        rcases firstOverlong_cons.mp first with again | ⟨none, -⟩
        · have same := Action.decode_error_iff.mpr ⟨size, rfl, again⟩
          rw [read] at same
          rw [Except.error.inj same]
        · exact absurd overlong (none count)
    | ok found =>
      have none : ∀ size, ¬item.OverlongColor size := by
        intro size overlong
        have failed := Action.decode_error_iff.mpr ⟨size, rfl, overlong⟩
        rw [read] at failed
        cases failed
      have step : (ofItems (item :: rest)).actions = .error fault ↔
          (ofItems rest).actions = .error fault := by
        cases found with
        | error skip => simp only [ofItems, read]
        | ok action =>
          cases later : (ofItems rest).actions <;> simp [ofItems, read, later, Except.map]
      simp [step, ih, firstOverlong_cons, none]

end Decoded

def Plan.itemsIn [Json.Nesting] (text : Option Text) : List Json :=
  match documentOf (Fence.strip (text.getD "")) with
  | .error _ => []
  | .ok items => items

theorem Plan.decode_fault_iff [Json.Nesting] {text : Option Text} {fault : Fault} :
    (decode text).plan = .error (.fault fault) ↔
      ∃ count, fault = .digits count ∧ Decoded.FirstOverlong count (itemsIn text) := by
  cases document : documentOf (Fence.strip (text.getD "")) with
  | error refused => simp [decode, itemsIn, document, Decoded.FirstOverlong]
  | ok items =>
    rw [itemsIn, document, ← Decoded.ofItems_error_iff]
    cases read : (Decoded.ofItems items).actions <;> simp [decode, document, read]

end DrawingPlan
