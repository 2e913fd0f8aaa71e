import Mathlib.Data.List.Basic
import DrawingPlan.Proofs.Drawing.Selection

set_option autoImplicit false

namespace DrawingPlan

variable {α : Type}

namespace Filter

section Predicates

variable {filter : Filter α} {entity : Entity α} {fault : Fault}

theorem acceptsLayer_iff :
    filter.acceptsLayer entity = true ↔
      ∀ name, filter.layer = some name → entity.layer.lower = name.lower := by
  unfold acceptsLayer
  cases filter.layer <;> simp

theorem acceptsKind_iff :
    filter.acceptsKind entity = .ok true ↔ ∀ name, filter.kind = some name →
      ∃ kind, entity.kind? = some kind ∧ Text.lower kind.name = name.lower := by
  unfold acceptsKind
  cases filter.kind <;> cases entity.kind? <;> simp

theorem acceptsKind_error_iff :
    filter.acceptsKind entity = .error fault ↔
      fault = .noGeometry ∧ filter.kind.isSome ∧ entity.geometry = none := by
  unfold acceptsKind Entity.kind?
  cases filter.kind <;> cases entity.geometry <;> simp [eq_comm]

variable [Scalar α]

theorem acceptsWindow_iff {box : Box α} :
    filter.acceptsWindow box = true ↔
      ∀ corners, filter.window = some corners →
        (Box.ofCorners corners.1 corners.2).contains box = true := by
  unfold acceptsWindow
  cases filter.window <;> simp

theorem acceptsCrossing_iff {box : Box α} :
    filter.acceptsCrossing box = true ↔
      ∀ corners, filter.crossing = some corners →
        (Box.ofCorners corners.1 corners.2).overlaps box = true := by
  unfold acceptsCrossing
  cases filter.crossing <;> simp

def Windowed (filter : Filter α) : Prop :=
  filter.window.isSome ∨ filter.crossing.isSome

theorem acceptsPlace_of_windowed (windowed : filter.Windowed) :
    filter.acceptsPlace entity = entity.box.map fun found =>
      found.any fun box => filter.acceptsWindow box && filter.acceptsCrossing box := by
  have asked : (filter.window.isNone && filter.crossing.isNone) = false := by
    cases window : filter.window <;> cases crossing : filter.crossing <;> simp_all [Windowed]
  rw [acceptsPlace, if_neg (by simp [asked])]
  congr 1
  funext found
  cases found <;> rfl

theorem acceptsPlace_of_not_windowed (blind : ¬filter.Windowed) :
    filter.acceptsPlace entity = .ok true := by
  have asked : (filter.window.isNone && filter.crossing.isNone) = true := by
    cases window : filter.window <;> cases crossing : filter.crossing <;> simp_all [Windowed]
  rw [acceptsPlace, if_pos asked]

theorem acceptsPlace_iff (windowed : filter.Windowed) :
    filter.acceptsPlace entity = .ok true ↔
      ∃ box, entity.box = .ok (some box) ∧ filter.acceptsWindow box = true ∧
        filter.acceptsCrossing box = true := by
  rw [acceptsPlace_of_windowed windowed]
  cases built : entity.box with
  | error fault => simp [Except.map]
  | ok found => cases found <;> simp [Except.map]

theorem acceptsPlace_error_iff :
    filter.acceptsPlace entity = .error fault ↔ filter.Windowed ∧ entity.box = .error fault := by
  by_cases windowed : filter.Windowed
  · rw [acceptsPlace_of_windowed windowed]
    cases built : entity.box <;> simp [Except.map, windowed]
  · simp [acceptsPlace_of_not_windowed windowed, windowed]

-- The tests come in turn, and one that fails is the last.
theorem accepts_iff :
    filter.accepts entity = .ok true ↔ filter.acceptsLayer entity = true ∧
      filter.acceptsKind entity = .ok true ∧ filter.acceptsPlace entity = .ok true := by
  unfold accepts
  by_cases layer : filter.acceptsLayer entity = true
  · cases kind : filter.acceptsKind entity with
    | error fault => simp [layer, Bind.bind, Except.bind]
    | ok verdict => cases verdict <;> simp [layer, Bind.bind, Except.bind, pure, Except.pure]
  · simp [layer, pure, Except.pure]

theorem accepts_error_iff :
    filter.accepts entity = .error fault ↔ filter.acceptsLayer entity = true ∧
      (filter.acceptsKind entity = .error fault ∨
        filter.acceptsKind entity = .ok true ∧ filter.acceptsPlace entity = .error fault) := by
  unfold accepts
  by_cases layer : filter.acceptsLayer entity = true
  · cases kind : filter.acceptsKind entity with
    | error fault => simp [layer, Bind.bind, Except.bind]
    | ok verdict => cases verdict <;> simp [layer, Bind.bind, Except.bind, pure, Except.pure]
  · simp [layer, pure, Except.pure]

end Predicates

section Meeting

variable [Scalar α] {filter : Filter α} {entity : Entity α}

/-- What the predicates that a filter sets ask of an entity; windows ask it of the box. -/
structure Meets (filter : Filter α) (entity : Entity α) : Prop where
  layer : ∀ name, filter.layer = some name → entity.layer.lower = name.lower
  kind : ∀ name, filter.kind = some name →
    ∃ kind, entity.kind? = some kind ∧ Text.lower kind.name = name.lower
  window : ∀ corners, filter.window = some corners → ∃ box, entity.box = .ok (some box) ∧
    (Box.ofCorners corners.1 corners.2).contains box = true
  crossing : ∀ corners, filter.crossing = some corners → ∃ box, entity.box = .ok (some box) ∧
    (Box.ofCorners corners.1 corners.2).overlaps box = true

theorem Meets.acceptsPlace (met : filter.Meets entity) :
    filter.acceptsPlace entity = .ok true := by
  by_cases windowed : filter.Windowed
  · have boxed : ∃ box, entity.box = .ok (some box) := by
      rcases windowed with window | crossing
      · obtain ⟨corners, set⟩ := Option.isSome_iff_exists.mp window
        obtain ⟨box, built, -⟩ := met.window corners set
        exact ⟨box, built⟩
      · obtain ⟨corners, set⟩ := Option.isSome_iff_exists.mp crossing
        obtain ⟨box, built, -⟩ := met.crossing corners set
        exact ⟨box, built⟩
    obtain ⟨box, built⟩ := boxed
    refine (acceptsPlace_iff windowed).mpr ⟨box, built, acceptsWindow_iff.mpr ?_,
      acceptsCrossing_iff.mpr ?_⟩
    · intro corners set
      obtain ⟨same, again, inside⟩ := met.window corners set
      cases built.symm.trans again
      exact inside
    · intro corners set
      obtain ⟨same, again, touched⟩ := met.crossing corners set
      cases built.symm.trans again
      exact touched
  · exact acceptsPlace_of_not_windowed windowed

theorem accepts_iff_meets : filter.accepts entity = .ok true ↔ filter.Meets entity := by
  constructor
  · intro accepted
    obtain ⟨onLayer, ofKind, placed⟩ := accepts_iff.mp accepted
    refine ⟨acceptsLayer_iff.mp onLayer, acceptsKind_iff.mp ofKind, fun corners set => ?_,
      fun corners set => ?_⟩
    · obtain ⟨box, built, inside, -⟩ := (acceptsPlace_iff (.inl (by simp [set]))).mp placed
      exact ⟨box, built, acceptsWindow_iff.mp inside corners set⟩
    · obtain ⟨box, built, -, touched⟩ := (acceptsPlace_iff (.inr (by simp [set]))).mp placed
      exact ⟨box, built, acceptsCrossing_iff.mp touched corners set⟩
  · intro met
    exact accepts_iff.mpr
      ⟨acceptsLayer_iff.mpr met.layer, acceptsKind_iff.mpr met.kind, met.acceptsPlace⟩

structure Judges (filter : Filter α) (entity : Entity α) : Prop where
  kind : filter.kind.isSome → entity.geometry.isSome
  place : filter.Windowed → ∃ found, entity.box = .ok found

theorem Judges.verdict (judged : filter.Judges entity) :
    ∃ verdict, filter.accepts entity = .ok verdict := by
  cases judgement : filter.accepts entity with
  | ok verdict => exact ⟨verdict, rfl⟩
  | error fault =>
    obtain ⟨-, unkinded | ⟨-, misplaced⟩⟩ := accepts_error_iff.mp judgement
    · obtain ⟨-, asked, missing⟩ := acceptsKind_error_iff.mp unkinded
      simpa [missing] using judged.kind asked
    · obtain ⟨windowed, failed⟩ := acceptsPlace_error_iff.mp misplaced
      obtain ⟨found, built⟩ := judged.place windowed
      cases failed.symm.trans built

theorem Judges.accepts_congr {other : Filter α} (judged : filter.Judges entity)
    (judgedToo : other.Judges entity) (same : filter.Meets entity ↔ other.Meets entity) :
    filter.accepts entity = other.accepts entity := by
  obtain ⟨verdict, accepted⟩ := judged.verdict
  obtain ⟨verdictToo, acceptedToo⟩ := judgedToo.verdict
  rw [← accepts_iff_meets, ← accepts_iff_meets, accepted, acceptedToo, Except.ok.injEq,
    Except.ok.injEq] at same
  rw [accepted, acceptedToo, Bool.eq_iff_iff.mpr same]

/-- The filters that carry one predicate of a filter each; what is not set stays so. -/
def parts (filter : Filter α) : List (Filter α) :=
  [{ layer := filter.layer }, { kind := filter.kind }, { window := filter.window },
    { crossing := filter.crossing }]

theorem meets_iff_parts : filter.Meets entity ↔ ∀ part ∈ filter.parts, part.Meets entity := by
  constructor
  · intro met part listed
    simp only [parts, List.mem_cons, List.not_mem_nil, or_false] at listed
    rcases listed with rfl | rfl | rfl | rfl
    · exact ⟨met.layer, nofun, nofun, nofun⟩
    · exact ⟨nofun, met.kind, nofun, nofun⟩
    · exact ⟨nofun, nofun, met.window, nofun⟩
    · exact ⟨nofun, nofun, nofun, met.crossing⟩
  · intro met
    exact ⟨(met { layer := filter.layer } (by simp [parts])).layer,
      (met { kind := filter.kind } (by simp [parts])).kind,
      (met { window := filter.window } (by simp [parts])).window,
      (met { crossing := filter.crossing } (by simp [parts])).crossing⟩

structure Extends (stricter filter : Filter α) : Prop where
  layer : ∀ name, filter.layer = some name → stricter.layer = some name
  kind : ∀ name, filter.kind = some name → stricter.kind = some name
  window : ∀ corners, filter.window = some corners → stricter.window = some corners
  crossing : ∀ corners, filter.crossing = some corners → stricter.crossing = some corners

theorem Extends.meets {stricter : Filter α} (added : stricter.Extends filter)
    (met : stricter.Meets entity) : filter.Meets entity where
  layer name set := met.layer name (added.layer name set)
  kind name set := met.kind name (added.kind name set)
  window corners set := met.window corners (added.window corners set)
  crossing corners set := met.crossing corners (added.crossing corners set)

end Meeting

end Filter

namespace Drawing

variable [Scalar α] {drawing : Drawing α}

theorem select_mono {stricter filter : Filter α}
    (judgedMore : ∀ entity ∈ drawing.liveEntities, stricter.Judges entity)
    (judged : ∀ entity ∈ drawing.liveEntities, filter.Judges entity)
    (weaker : ∀ entity, stricter.Meets entity → filter.Meets entity) :
    ∃ fewer places, drawing.select (some stricter) = .ok fewer ∧
      drawing.select (some filter) = .ok places ∧ fewer.Sublist places := by
  refine ⟨_, _, select_of_judged fun entity live => (judgedMore entity live).verdict,
    select_of_judged fun entity live => (judged entity live).verdict, ?_⟩
  refine (List.monotone_filter_right _ fun entry picked => ?_).map _
  obtain ⟨live, accepted⟩ := of_decide_eq_true picked
  have met := weaker entry.1 (Filter.accepts_iff_meets.mp accepted)
  exact decide_eq_true ⟨live, Filter.accepts_iff_meets.mpr met⟩

end Drawing

/--
A filter accepts what each of its predicates accepts by itself, and selects it place by place in
drawing order. A further predicate never adds a place.
-/
theorem Filter.selects_conjunction [Scalar α] (filter : Filter α) :
    (∀ entity : Entity α, filter.Judges entity →
      ∃ verdict, filter.accepts entity = .ok verdict ∧
        (verdict = true ↔ ∀ part ∈ filter.parts, part.accepts entity = .ok true) ∧
        ∀ part ∈ filter.parts, part.accepts entity = .ok true ↔ part.Meets entity) ∧
      ∀ drawing : Drawing α, (∀ entity ∈ drawing.liveEntities, filter.Judges entity) →
        ∃ places, drawing.select (some filter) = .ok places ∧ places.Pairwise (· < ·) ∧
          (∀ place, place ∈ places ↔ ∃ entity, drawing.entities[place]? = some entity ∧
            entity.deleted = false ∧ ∀ part ∈ filter.parts, part.accepts entity = .ok true) ∧
          ∀ stricter : Filter α, stricter.Extends filter →
            (∀ entity ∈ drawing.liveEntities, stricter.Judges entity) →
              ∃ fewer, drawing.select (some stricter) = .ok fewer ∧ fewer.Sublist places := by
  have each (entity : Entity α) : filter.Meets entity ↔
      ∀ part ∈ filter.parts, part.accepts entity = .ok true := by
    simp only [accepts_iff_meets]
    exact meets_iff_parts
  constructor
  · intro entity judged
    obtain ⟨verdict, accepted⟩ := judged.verdict
    refine ⟨verdict, accepted, ?_, fun part _ => accepts_iff_meets⟩
    rw [← each, ← accepts_iff_meets, accepted, Except.ok.injEq]
  · intro drawing judged
    obtain ⟨places, selected⟩ : ∃ places, drawing.Selected (some filter) places :=
      Drawing.selected_of_judged fun entity live => (judged entity live).verdict
    refine ⟨places, selected.select, ?_, fun place => ?_, fun stricter added judgedMore => ?_⟩
    · exact drawing.pairwise_liveIndexes.sublist (Drawing.select_sublist selected.select)
    · simp only [selected.mem_iff, Picks, acceptsAny, accepts_iff_meets, each]
    · obtain ⟨fewer, same, chosen, again, sublist⟩ :=
        Drawing.select_mono judgedMore judged fun _ => added.meets
      cases selected.select.symm.trans again
      exact ⟨fewer, chosen, sublist⟩

theorem Filter.selects_conjunction_of_wired_circle :
    let circle : Entity Float := { geometry := some (.circle ⟨5, 5⟩ 1), layer := "WIRE" }
    let dot : Entity Float := { geometry := some (.polyline [] false), layer := "wire" }
    let drawing : Drawing Float :=
      { (Drawing.empty : Drawing Float) with
        entities := [dot, { circle with deleted := true }, circle] }
    let filter : Filter Float := { layer := some "Wire", window := some (⟨10, 0⟩, ⟨0, 10⟩) }
    let stricter : Filter Float :=
      { filter with kind := some "CIRCLE", crossing := some (⟨20, 20⟩, ⟨15, 15⟩) }
    (∀ entity ∈ drawing.liveEntities, filter.Judges entity) ∧ stricter.Extends filter ∧
      (∀ entity ∈ drawing.liveEntities, stricter.Judges entity) ∧
      (∀ part ∈ filter.parts, part.accepts circle = .ok true) ∧
      drawing.select (some filter) = .ok [2] ∧
      ∃ fewer, drawing.select (some stricter) = .ok fewer ∧ fewer.Sublist [2] := by
  intro circle dot drawing filter stricter
  have live : drawing.liveEntities = [dot, circle] := rfl
  have judges (any : Filter Float) : ∀ entity ∈ drawing.liveEntities, any.Judges entity := by
    rw [live]
    intro entity listed
    simp only [List.mem_cons, List.not_mem_nil, or_false] at listed
    rcases listed with rfl | rfl
    · exact ⟨fun _ => rfl, fun _ => ⟨_, rfl⟩⟩
    · exact ⟨fun _ => rfl, fun _ => ⟨_, rfl⟩⟩
  have added : stricter.Extends filter :=
    ⟨fun _ set => set, nofun, fun _ set => set, nofun⟩
  have one : drawing.select (some filter) = .ok [2] := by decide +kernel
  obtain ⟨each, whole⟩ := selects_conjunction filter
  obtain ⟨verdict, accepted, conjunction, -⟩ := each circle (judges filter circle (by simp [live]))
  obtain ⟨places, selected, -, -, grown⟩ := whole drawing (judges filter)
  cases one.symm.trans selected
  have inside : filter.accepts circle = .ok true := by decide +kernel
  cases accepted.symm.trans inside
  exact ⟨judges filter, added, judges stricter, conjunction.mp rfl, one,
    grown stricter added (judges stricter)⟩

end DrawingPlan
