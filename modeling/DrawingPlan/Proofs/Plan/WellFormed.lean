import DrawingPlan.Proofs.Number.Angle
import DrawingPlan.Proofs.Plan.Decoding
import DrawingPlan.Proofs.Plan.Parts

set_option autoImplicit false

namespace DrawingPlan

open DrawingPlan.Number

def Point.Finite (p : Point Float) : Prop :=
  isFinite p.x = true ∧ isFinite p.y = true

structure Action.WellFormed (action : Action Float) : Prop where
  points : ∀ p ∈ action.points, p.Finite
  measures : ∀ x ∈ action.measures, isFinite x = true
  angle : ∀ x ∈ action.angle?, isFinite x = true
  sides : ∀ n ∈ action.sides?, 3 ≤ n ∧ n ≤ 1024
  layer : ∀ name ∈ action.layer?, name.isBlank = false
  givenNames : ∀ name ∈ action.givenNames, name.isBlank = false

def Text.Whole (text : Text) : Prop :=
  ∃ s : String, text = s

inductive Json.Whole : Json → Prop
  | null : Whole .null
  | bool (b : Bool) : Whole (.bool b)
  | integer (n : Int) : Whole (.integer n)
  | real (x : Float) : Whole (.real x)
  | text {t : Text} (whole : t.Whole) : Whole (.text t)
  | list {items : List Json} (whole : ∀ item ∈ items, Whole item) : Whole (.list items)
  | object {fields : List (Text × Json)} (keys : ∀ field ∈ fields, field.1.Whole)
      (values : ∀ field ∈ fields, Whole field.2) : Whole (.object fields)

theorem Field.finite?_some {x y : Float} (taken : finite? x = some y) : isFinite y = true := by
  unfold finite? at taken
  split at taken
  · cases taken
    assumption
  · cases taken

theorem Field.number?_finite {json : Json} {x : Float} (read : number? json = some x) :
    isFinite x = true := by
  cases json with
  | integer n => exact finite?_some read
  | real x => exact finite?_some read
  | text t =>
    obtain ⟨numeral, -, taken⟩ := Option.bind_eq_some_iff.mp read
    exact finite?_some taken
  | _ => cases read

theorem Field.number_finite (obj : Json) (key : Text) {fallback : Float}
    (finite : isFinite fallback = true) : isFinite (number obj key fallback) = true := by
  unfold number
  cases read : number? (obj.field key) with
  | none => exact finite
  | some x => exact number?_finite read

theorem Field.pointOf_finite {fallback : Point Float} (finite : fallback.Finite) (json : Json) :
    (pointOf fallback json).Finite := by
  unfold pointOf
  split
  · exact finite
  · split
    next x read => exact ⟨number?_finite read, finite.2⟩
    next => exact finite
  · split
    next x y first second => exact ⟨number?_finite first, number?_finite second⟩
    next => exact finite
  · exact finite

theorem Field.point_finite (obj : Json) (key : Text) {fallback : Point Float}
    (finite : fallback.Finite) : (point obj key fallback).Finite :=
  pointOf_finite finite (obj.field key)

theorem isFinite_zero : isFinite 0 = true := by decide +kernel

theorem isFinite_one : isFinite 1 = true := by decide +kernel

theorem isFinite_ofNat {n : Nat} (small : n < 2 ^ 52) : isFinite (Scalar.ofNat n) = true :=
  (below_ofNat small (Nat.le_refl 52)).finite (by decide)

theorem Point.origin_finite : (Point.origin : Point Float).Finite :=
  ⟨isFinite_zero, isFinite_zero⟩

theorem Field.corners_finite (wanted : Nat) (items : List Json) :
    ∀ p ∈ corners wanted items, p.Finite := by
  fun_induction corners wanted items with
  | case1 wanted coordinates rest ih =>
    intro p member
    rcases List.mem_cons.mp member with rfl | later
    · exact pointOf_finite Point.origin_finite _
    · exact ih p later
  | case2 wanted other rest skipped ih => exact ih
  | case3 => simp

theorem Field.window_finite (items : List Json) :
    (window items).1.Finite ∧ (window items).2.Finite := by
  have finite := corners_finite 2 items
  unfold window
  split
  next a b rest found => simp_all
  next a found => exact ⟨finite a (by simp [found]), Point.origin_finite⟩
  next => exact ⟨Point.origin_finite, Point.origin_finite⟩

theorem Field.window?_finite {json : Json} {a b : Point Float} (read : window? json = some (a, b)) :
    a.Finite ∧ b.Finite := by
  cases json with
  | list items =>
    have same : window items = (a, b) := Option.some.inj read
    have := window_finite items
    rwa [same] at this
  | _ => cases read

theorem Field.filter_finite {obj : Json} {filter : Filter Float}
    (read : Field.filter obj = .ok (some filter)) : ∀ p ∈ filter.corners, p.Finite := by
  unfold Field.filter at read
  split at read
  · cases read
  · rename_i fields present
    cases read
    intro p member
    obtain ⟨⟨a, b⟩, chosen, corner⟩ := List.mem_flatMap.mp member
    have both : a.Finite ∧ b.Finite := by
      rcases List.mem_append.mp chosen with first | second
      · exact window?_finite (Option.mem_toList.mp first)
      · exact window?_finite (Option.mem_toList.mp second)
    rcases List.mem_cons.mp corner with rfl | other
    · exact both.1
    · obtain rfl := List.mem_singleton.mp other
      exact both.2
  · cases read

theorem Field.text?_some {obj : Json} {key t : Text} (read : text? obj key = some t) :
    obj.field key = .text t ∧ t.isBlank = false := by
  unfold text? at read
  split at read
  · split at read
    · cases read
    · cases read
      simp_all
  · cases read

@[simp] theorem Text.whole_ofString (s : String) : (s : Text).Whole :=
  ⟨s, rfl⟩

@[simp] theorem Json.whole_text {t : Text} : (Json.text t).Whole ↔ t.Whole :=
  ⟨fun | .text whole => whole, .text⟩

@[simp] theorem Json.whole_list {items : List Json} :
    (Json.list items).Whole ↔ ∀ item ∈ items, item.Whole :=
  ⟨fun | .list whole => whole, .list⟩

@[simp] theorem Json.whole_object {fields : List (Text × Json)} :
    (Json.object fields).Whole ↔ ∀ field ∈ fields, field.1.Whole ∧ field.2.Whole :=
  ⟨fun | .object keys values => fun field inside => ⟨keys field inside, values field inside⟩,
    fun whole => .object (fun field inside => (whole field inside).1)
      fun field inside => (whole field inside).2⟩

theorem Json.Whole.field {json : Json} (whole : json.Whole) (key : Text) :
    (json.field key).Whole := by
  cases whole with
  | object keys values =>
    rename_i fields
    cases found : fields.lookup key with
    | none => simpa [Json.field, field?, found] using Json.Whole.null
    | some value =>
      obtain ⟨before, after, rfl, -⟩ := List.lookup_eq_some_iff.mp found
      simpa [Json.field, field?, found] using values (key, value) (by simp)
  | _ => exact .null

theorem Field.anyText?_whole {json : Json} {t : Text} (whole : json.Whole)
    (read : anyText? json = some t) : t.Whole := by
  cases whole with
  | text whole =>
    cases read
    exact whole
  | _ => cases read

theorem Field.text?_whole {obj : Json} {key t : Text} (whole : obj.Whole)
    (read : text? obj key = some t) : t.Whole :=
  anyText?_whole (whole.field key) (by rw [(text?_some read).1]; rfl)

theorem Field.text?_getD_whole {obj : Json} {key fallback : Text} (whole : obj.Whole)
    (standard : fallback.Whole) : ((text? obj key).getD fallback).Whole := by
  cases read : text? obj key with
  | none => exact standard
  | some t => exact text?_whole whole read

theorem Field.filter_whole {obj : Json} {filter : Filter Float} (whole : obj.Whole)
    (read : Field.filter obj = .ok (some filter)) : ∀ t ∈ filter.texts, t.Whole := by
  have given := whole.field "filter"
  unfold Field.filter at read
  split at read
  · cases read
  · rename_i fields present
    rw [present] at given
    cases read
    intro t member
    rcases List.mem_append.mp member with layer | kind
    · exact anyText?_whole (given.field "layer") (Option.mem_toList.mp layer)
    · exact anyText?_whole (given.field "type") (Option.mem_toList.mp kind)
  · cases read

theorem Field.attributeTexts_whole {obj : Json} (whole : obj.Whole) :
    ∀ entry ∈ attributeTexts obj, entry.1.Whole ∧ entry.2.Whole := by
  have given := whole.field "attributes"
  unfold attributeTexts
  split
  next fields present =>
    rw [present, Json.whole_object] at given
    intro entry member
    obtain ⟨⟨tag, value⟩, inside, kept⟩ := List.mem_filterMap.mp member
    cases value with
    | text t =>
      cases kept
      exact (given _ inside).imp id Json.whole_text.mp
    | _ => cases kept
  next => simp

theorem Field.layerName_solid (obj : Json) : (layerName obj).isBlank = false := by
  unfold layerName
  cases read : text? obj "layer" with
  | none => decide
  | some t => exact (text?_some read).2

inductive Action.ReadFrom (obj : Json) : Action Float → Prop
  | line : ReadFrom obj (.line (.read obj))
  | polyline : ReadFrom obj (.polyline (.read obj))
  | rectangle : ReadFrom obj (.rectangle (.read obj))
  | circle : ReadFrom obj (.circle (.read obj))
  | polygon : ReadFrom obj (.polygon (.read obj))
  | insertBlock : ReadFrom obj (.insertBlock (.read obj))
  | move {filter} (found : Field.filter obj = .ok filter) : ReadFrom obj (.move (.read filter obj))
  | rotate {filter} (found : Field.filter obj = .ok filter) :
      ReadFrom obj (.rotate (.read filter obj))
  | scale {filter} (found : Field.filter obj = .ok filter) :
      ReadFrom obj (.scale (.read filter obj))
  | erase {filter} (found : Field.filter obj = .ok filter) : ReadFrom obj (.erase ⟨filter⟩)
  | changeLayer {filter} (found : Field.filter obj = .ok filter) :
      ReadFrom obj (.changeLayer (.read filter obj))
  | changeProperties {filter action} (found : Field.filter obj = .ok filter)
      (read : ChangeProperties.read? filter obj = .ok action) :
      ReadFrom obj (.changeProperties action)

theorem withFilter_ok {kind : Text} {obj : Json}
    {build : Option (Filter Float) → Except Fault (Action Float)} {action : Action Float}
    (read : withFilter kind obj build = .ok (.ok action)) :
    ∃ filter, Field.filter obj = .ok filter ∧ build filter = .ok action := by
  unfold withFilter at read
  split at read
  · cases read
  · rename_i filter found
    refine ⟨filter, found, ?_⟩
    cases built : build filter <;> simp_all [Except.map]

theorem Action.readFrom_of_readAs {written : Text} {obj : Json} {kind : ActionKind}
    {action : Action Float} (read : readAs written obj kind = .ok (.ok action)) :
    action.ReadFrom obj := by
  cases kind with
  | line => cases read; exact .line
  | polyline => cases read; exact .polyline
  | rectangle => cases read; exact .rectangle
  | circle => cases read; exact .circle
  | polygon =>
    rw [readAs, DrawPolygon.read?_eq] at read
    cases read
    exact .polygon
  | insertBlock => cases read; exact .insertBlock
  | move => obtain ⟨filter, found, ⟨⟩⟩ := withFilter_ok read; exact .move found
  | rotate => obtain ⟨filter, found, ⟨⟩⟩ := withFilter_ok read; exact .rotate found
  | scale => obtain ⟨filter, found, ⟨⟩⟩ := withFilter_ok read; exact .scale found
  | erase => obtain ⟨filter, found, ⟨⟩⟩ := withFilter_ok read; exact .erase found
  | changeLayer => obtain ⟨filter, found, ⟨⟩⟩ := withFilter_ok read; exact .changeLayer found
  | changeProperties =>
    obtain ⟨filter, found, built⟩ := withFilter_ok read
    cases changed : ChangeProperties.read? filter obj with
    | error fault =>
      rw [changed] at built
      cases built
    | ok change =>
      rw [changed] at built
      cases built
      exact .changeProperties found changed

theorem Action.readFrom_of_decode {item : Json} {action : Action Float}
    (read : decode item = .ok (.ok action)) : action.ReadFrom item := by
  unfold decode at read
  split at read
  · split at read
    · split at read
      · exact readFrom_of_readAs read
      · cases read
    · cases read
  · cases read

theorem Decoded.mem_ofItems {items : List Json} {actions : List (Action Float)}
    (read : (ofItems items).actions = .ok actions) :
    ∀ action ∈ actions, ∃ item ∈ items, action.ReadFrom item := by
  induction items generalizing actions with
  | nil =>
    cases read
    simp
  | cons item rest ih =>
    cases decoded : Action.decode item with
    | error fault => simp [ofItems, decoded] at read
    | ok found =>
      cases found with
      | error skip =>
        -- A skipped item leaves no action behind.
        simp only [ofItems, decoded] at read
        intro action member
        obtain ⟨other, later, source⟩ := ih read action member
        exact ⟨other, List.mem_cons_of_mem _ later, source⟩
      | ok first =>
        cases others : (ofItems rest).actions with
        | error fault => simp [ofItems, decoded, others, Except.map] at read
        | ok tail =>
          simp only [ofItems, decoded, others, Except.map] at read
          cases read
          intro action member
          rcases List.mem_cons.mp member with rfl | later
          · exact ⟨item, by simp, Action.readFrom_of_decode decoded⟩
          · obtain ⟨other, inside, source⟩ := ih others action later
            exact ⟨other, List.mem_cons_of_mem _ inside, source⟩

theorem Plan.readFrom_of_decode [Json.Nesting] {text : Option Text} {plan : Plan Float}
    (read : (decode text).plan = .ok plan) :
    ∀ action ∈ plan.actions, ∃ item ∈ itemsIn text, action.ReadFrom item := by
  unfold decode at read
  unfold itemsIn
  cases document : documentOf (Fence.strip (text.getD "")) with
  | error refused => simp [document] at read
  | ok items =>
    cases decoded : (Decoded.ofItems items).actions with
    | error fault => simp [document, decoded] at read
    | ok actions =>
      simp only [document, decoded] at read
      cases read
      exact Decoded.mem_ofItems decoded

theorem ChangeProperties.read?_ok {filter : Option (Filter Float)} {obj : Json}
    {action : ChangeProperties Float} (read : read? filter obj = .ok action) :
    action.filter = filter ∧ action.linetype = Field.text? obj "linetype" ∧
      action.linetypeScale = Field.number? (obj.field "linetypeScale") := by
  cases color : Field.integer? (obj.field "colorIndex") with
  | error fault => simp [read?, color, Bind.bind, Except.bind] at read
  | ok index =>
    simp only [read?, color, Bind.bind, Except.bind, Pure.pure, Except.pure] at read
    cases read
    exact ⟨rfl, rfl, rfl⟩

namespace Action.ReadFrom

variable {obj : Json} {action : Action Float}

theorem filter_read (source : action.ReadFrom obj) {filter : Filter Float}
    (present : action.filter? = some filter) : Field.filter obj = .ok (some filter) := by
  cases source with
  | line | polyline | rectangle | circle | polygon | insertBlock => cases present
  | move found | rotate found | scale found | erase found | changeLayer found =>
    cases present
    exact found
  | changeProperties found read =>
    obtain ⟨same, -, -⟩ := ChangeProperties.read?_ok read
    rw [found, ← same]
    exact congrArg Except.ok present

theorem ownPoints_finite (source : action.ReadFrom obj) : ∀ p ∈ action.ownPoints, p.Finite := by
  have origin := Point.origin_finite
  cases source with
  | line =>
    have finish : (⟨Scalar.ofNat 100, 0⟩ : Point Float).Finite :=
      ⟨isFinite_ofNat (by decide), isFinite_zero⟩
    simp only [ownPoints, List.forall_mem_cons]
    exact ⟨Field.point_finite _ _ origin, Field.point_finite _ _ finish, by simp⟩
  | polyline =>
    simp only [ownPoints, DrawPolyline.read]
    split
    · simp [Field.pointOf_finite origin]
    · simp
  | rectangle | circle | polygon | insertBlock | move | rotate | scale =>
    intro p member
    obtain rfl := List.mem_singleton.mp member
    exact Field.point_finite _ _ origin
  | erase | changeLayer | changeProperties => simp [ownPoints]

theorem points_finite (source : action.ReadFrom obj) : ∀ p ∈ action.points, p.Finite := by
  intro p member
  rcases List.mem_append.mp member with own | corner
  · exact source.ownPoints_finite p own
  · cases present : action.filter? with
    | none => simp [present] at corner
    | some filter =>
      rw [present] at corner
      exact Field.filter_finite (source.filter_read present) p corner

theorem measures_finite (source : action.ReadFrom obj) :
    ∀ x ∈ action.measures, isFinite x = true := by
  have hundred : isFinite (Scalar.ofNat 100) = true := isFinite_ofNat (by decide)
  have fifty : isFinite (Scalar.ofNat 50) = true := isFinite_ofNat (by decide)
  cases source with
  | rectangle =>
    simp only [measures, List.forall_mem_cons]
    exact ⟨Field.number_finite _ _ hundred, Field.number_finite _ _ hundred, by simp⟩
  | circle | polygon =>
    intro x member
    obtain rfl := List.mem_singleton.mp member
    exact Field.number_finite _ _ fifty
  | insertBlock | scale =>
    intro x member
    obtain rfl := List.mem_singleton.mp member
    exact Field.number_finite _ _ isFinite_one
  | changeProperties found read =>
    intro x member
    obtain ⟨-, -, scale⟩ := ChangeProperties.read?_ok read
    exact Field.number?_finite (scale ▸ Option.mem_toList.mp member)
  | line | polyline | move | rotate | erase | changeLayer => simp [measures]

theorem angle_below (source : action.ReadFrom obj) : ∀ x ∈ action.angle?, Below 1020 x := by
  have zero := isFinite_zero
  cases source with
  | rectangle | polygon | insertBlock | rotate =>
    intro x member
    cases member
    exact below_radians (Field.number_finite _ _ zero)
  | line | polyline | circle | move | scale | erase | changeLayer | changeProperties =>
    simp [angle?]

theorem sides_inRange (source : action.ReadFrom obj) : ∀ n ∈ action.sides?, 3 ≤ n ∧ n ≤ 1024 := by
  cases source with
  | polygon =>
    intro n member
    cases member
    exact sidesOf_bounds _
  | _ => simp [sides?]

theorem layer_solid (source : action.ReadFrom obj) :
    ∀ name ∈ action.layer?, name.isBlank = false := by
  cases source with
  | line | polyline | rectangle | circle | polygon | insertBlock =>
    intro name member
    cases member
    exact Field.layerName_solid obj
  | _ => simp [layer?]

theorem givenNames_solid (source : action.ReadFrom obj) :
    ∀ name ∈ action.givenNames, name.isBlank = false := by
  cases source with
  | changeLayer found =>
    intro name member
    exact (Field.text?_some (Option.mem_toList.mp member)).2
  | changeProperties found read =>
    intro name member
    obtain ⟨-, linetype, -⟩ := ChangeProperties.read?_ok read
    exact (Field.text?_some (linetype ▸ Option.mem_toList.mp member)).2
  | _ => simp [givenNames]

theorem texts_whole (source : action.ReadFrom obj) (whole : obj.Whole) :
    ∀ t ∈ action.texts, t.Whole := by
  have layer : ∀ t ∈ action.layer?, t.Whole := by
    cases source with
    | line | polyline | rectangle | circle | polygon | insertBlock =>
      intro t member
      cases member
      exact Field.text?_getD_whole whole (Text.whole_ofString "0")
    | _ => simp [layer?]
  have given : ∀ t ∈ action.givenNames, t.Whole := by
    cases source with
    | changeLayer found =>
      intro t member
      exact Field.text?_whole whole (Option.mem_toList.mp member)
    | changeProperties found read =>
      intro t member
      obtain ⟨-, linetype, -⟩ := ChangeProperties.read?_ok read
      exact Field.text?_whole whole (linetype ▸ Option.mem_toList.mp member)
    | _ => simp [givenNames]
  have block : ∀ t ∈ action.blockTexts, t.Whole := by
    cases source with
    | insertBlock =>
      intro t member
      rcases List.mem_cons.mp member with rfl | ofAttribute
      · exact Field.text?_getD_whole whole (Text.whole_ofString "")
      · obtain ⟨⟨tag, value⟩, inside, same⟩ := List.mem_flatMap.mp ofAttribute
        obtain ⟨wholeTag, wholeValue⟩ := Field.attributeTexts_whole whole _ inside
        simp only [List.mem_cons, List.not_mem_nil, or_false] at same
        rcases same with rfl | rfl
        · exact wholeTag
        · exact wholeValue
    | _ => simp [blockTexts]
  intro t member
  simp only [texts, List.mem_append, Option.mem_toList] at member
  rcases member with ((ofLayer | ofName) | ofBlock) | ofFilter
  · exact layer t ofLayer
  · exact given t ofName
  · exact block t ofBlock
  · cases present : action.filter? with
    | none => simp [present] at ofFilter
    | some filter =>
      rw [present] at ofFilter
      exact Field.filter_whole whole (source.filter_read present) t ofFilter

theorem wellFormed (source : action.ReadFrom obj) : action.WellFormed where
  points := source.points_finite
  measures := source.measures_finite
  angle x member := (source.angle_below x member).finite (by decide)
  sides := source.sides_inRange
  layer := source.layer_solid
  givenNames := source.givenNames_solid

end Action.ReadFrom

namespace Plan

/--
No constructor rejects what is read from a text: every action that comes of it is well formed. If no
string of the document has half of a surrogate pair, then no text of an action has.
-/
theorem decode_wellFormed [Json.Nesting] (text : Option Text) :
    (decode text).plan ≠ .error (.fault .fewSides) ∧
      ∀ plan, (decode text).plan = .ok plan →
        (∀ action ∈ plan.actions, action.WellFormed) ∧
          ((∀ item ∈ itemsIn text, item.Whole) →
            ∀ action ∈ plan.actions, ∀ t ∈ action.texts, t.Whole) := by
  refine ⟨fun rejected => ?_, fun plan read =>
    ⟨fun action member => ?_, fun whole action member => ?_⟩⟩
  · obtain ⟨count, same, -⟩ := decode_fault_iff.mp rejected
    cases same
  · obtain ⟨item, -, source⟩ := readFrom_of_decode read action member
    exact source.wellFormed
  · obtain ⟨item, inside, source⟩ := readFrom_of_decode read action member
    exact source.texts_whole (whole item inside)

set_option maxRecDepth 10000 in
theorem decode_wellFormed_of_spoiled_move :
    let text : Text := "[\x7b\"action\":\"MOVE\",\"offset\":[NaN,2]," ++
      "\"filter\":\x7b\"window\":[[1],7]\x7d\x7d]"
    ∃ plan, (decode (some text)).plan = .ok plan ∧ plan.actions.length = 1 ∧
      (∀ action ∈ plan.actions, action.WellFormed) ∧
        ∀ action ∈ plan.actions, ∀ t ∈ action.texts, t.Whole := by
  intro text
  have items : itemsIn (some text) =
      [.object [("action", .text "MOVE"),
        ("offset", .list [.real Number.notANumber, .integer 2]),
        ("filter", .object [("window", .list [.list [.integer 1], .integer 7])])]] := rfl
  have whole : ∀ item ∈ itemsIn (some text), item.Whole := by
    simp [items, Json.Whole.integer, Json.Whole.real]
  have counted : (decode (some text)).plan.toOption.map (·.actions.length) = some 1 := by
    decide +kernel
  cases read : (decode (some text)).plan with
  | error fault => simp [read, Except.toOption] at counted
  | ok plan =>
    have ⟨wellFormed, texts⟩ := (decode_wellFormed (some text)).2 plan read
    exact ⟨plan, rfl, by simpa [read, Except.toOption] using counted, wellFormed, texts whole⟩

end Plan

end DrawingPlan
