import DrawingPlan.Proofs.Drawing.Verdicts
import DrawingPlan.Proofs.Number.Order

set_option autoImplicit false

namespace DrawingPlan

open DrawingPlan.Number

namespace Corners

structure Numeric (corners : Point Float × Point Float) : Prop where
  firstX : corners.1.x.isNaN = false
  firstY : corners.1.y.isNaN = false
  secondX : corners.2.x.isNaN = false
  secondY : corners.2.y.isNaN = false

def Between (a b v : Float) : Prop :=
  a ≤ v ∧ v ≤ b ∨ b ≤ v ∧ v ≤ a

def Spans (corners : Point Float × Point Float) (p : Point Float) : Prop :=
  Between corners.1.x corners.2.x p.x ∧ Between corners.1.y corners.2.y p.y

instance (a b v : Float) : Decidable (Between a b v) :=
  inferInstanceAs (Decidable (_ ∨ _))

instance (corners : Point Float × Point Float) (p : Point Float) : Decidable (Spans corners p) :=
  inferInstanceAs (Decidable (_ ∧ _))

def namings (corners : Point Float × Point Float) : List (Point Float × Point Float) :=
  let (a, b) := corners
  [(a, b), (b, a), (⟨a.x, b.y⟩, ⟨b.x, a.y⟩), (⟨b.x, a.y⟩, ⟨a.x, b.y⟩)]

section Between

variable {a b v : Float}

theorem le_iff_atMost {x y : Float} : x ≤ y ↔ Scalar.atMost x y = true :=
  decide_eq_true_iff.symm

theorem between_comm : Between a b v ↔ Between b a v :=
  or_comm

theorem between_first (first : a.isNaN = false) (second : b.isNaN = false) : Between a b a := by
  by_cases above : Scalar.less b a = true
  · exact .inr ⟨le_iff_atMost.mpr (atMost_of_less above), le_iff_atMost.mpr (atMost_self first)⟩
  · exact .inl ⟨le_iff_atMost.mpr (atMost_self first),
      le_iff_atMost.mpr (atMost_of_not_less first second above)⟩

theorem Between.least (between : Between a b v) :
    Scalar.atMost (Scalar.least a [b]) v = true := by
  simp only [Between, le_iff_atMost] at between
  simp only [Scalar.least, List.foldl_cons, List.foldl_nil]
  rcases between with ⟨low, high⟩ | ⟨low, high⟩
  · split
    next below => exact atMost_of_less (less_of_less_of_atMost below low)
    next => exact low
  · split
    next => exact low
    next above => exact atMost_trans (atMost_swap (atMost_trans low high) above) low

theorem Between.greatest (between : Between a b v) :
    Scalar.atMost v (Scalar.greatest a [b]) = true := by
  simp only [Between, le_iff_atMost] at between
  simp only [Scalar.greatest, List.foldl_cons, List.foldl_nil]
  rcases between with ⟨low, high⟩ | ⟨low, high⟩
  · split
    next => exact high
    next below => exact atMost_trans high (atMost_swap (atMost_trans low high) below)
  · split
    next above => exact atMost_of_less (less_of_atMost_of_less high above)
    next => exact high

theorem atMost_least (first : Scalar.atMost v a = true) (second : Scalar.atMost v b = true) :
    Scalar.atMost v (Scalar.least a [b]) = true := by
  simp only [Scalar.least, List.foldl_cons, List.foldl_nil]
  split
  · exact second
  · exact first

theorem greatest_atMost (first : Scalar.atMost a v = true) (second : Scalar.atMost b v = true) :
    Scalar.atMost (Scalar.greatest a [b]) v = true := by
  simp only [Scalar.greatest, List.foldl_cons, List.foldl_nil]
  split
  · exact second
  · exact first

end Between

section Rectangle

variable {corners inner outer : Point Float × Point Float}

theorem Numeric.spans (numeric : Numeric corners) :
    Spans corners corners.1 ∧ Spans corners corners.2 := by
  refine ⟨⟨between_first numeric.firstX numeric.secondX,
    between_first numeric.firstY numeric.secondY⟩, between_comm.mp ?_, between_comm.mp ?_⟩
  · exact between_first numeric.secondX numeric.firstX
  · exact between_first numeric.secondY numeric.firstY

theorem Between.within {a b c d v : Float} (first : Between c d a) (second : Between c d b)
    (between : Between a b v) : Between c d v := by
  simp only [Between, le_iff_atMost] at first second between ⊢
  grind [atMost_trans]

theorem Spans.within (first : Spans outer inner.1) (second : Spans outer inner.2)
    (p : Point Float) (inside : Spans inner p) : Spans outer p :=
  ⟨first.1.within second.1 inside.1, first.2.within second.2 inside.2⟩

theorem contains_of_spans (first : Spans outer inner.1) (second : Spans outer inner.2) :
    (Box.ofCorners outer.1 outer.2).contains (Box.ofCorners inner.1 inner.2) = true := by
  obtain ⟨firstX, firstY⟩ := first
  obtain ⟨secondX, secondY⟩ := second
  have left := atMost_least firstX.least secondX.least
  have right := greatest_atMost firstX.greatest secondX.greatest
  have bottom := atMost_least firstY.least secondY.least
  have top := greatest_atMost firstY.greatest secondY.greatest
  simp only [Box.contains, Bool.and_eq_true]
  exact ⟨⟨⟨left, right⟩, bottom⟩, top⟩

theorem contains_trans {a b c : Box Float} (outside : a.contains b = true)
    (inside : b.contains c = true) : a.contains c = true := by
  simp only [Box.contains, Bool.and_eq_true] at outside inside ⊢
  obtain ⟨⟨⟨left, right⟩, bottom⟩, top⟩ := outside
  obtain ⟨⟨⟨left', right'⟩, bottom'⟩, top'⟩ := inside
  exact ⟨⟨⟨atMost_trans left left', atMost_trans right' right⟩, atMost_trans bottom bottom'⟩,
    atMost_trans top' top⟩

-- A box with a NaN in it is separated from nothing along that side; what holds it apart from the
-- larger box holds it apart from the smaller one.
theorem overlaps_of_contains {a b c : Box Float} (outside : a.contains b = true)
    (touched : b.overlaps c = true) : a.overlaps c = true := by
  simp only [Box.contains, Bool.and_eq_true] at outside
  obtain ⟨⟨⟨left, right⟩, bottom⟩, top⟩ := outside
  simp only [Box.overlaps, Box.separated, Bool.not_eq_true', Bool.or_eq_false_iff] at touched ⊢
  simp only [Bool.eq_false_iff] at touched ⊢
  obtain ⟨⟨⟨notLeft, notRight⟩, notBelow⟩, notAbove⟩ := touched
  exact ⟨⟨⟨fun apart => notLeft (less_of_less_of_atMost apart left),
    fun apart => notRight (less_of_atMost_of_less right apart)⟩,
    fun apart => notBelow (less_of_less_of_atMost apart bottom)⟩,
    fun apart => notAbove (less_of_atMost_of_less top apart)⟩

theorem Numeric.naming {naming : Point Float × Point Float} (numeric : Numeric corners)
    (listed : naming ∈ namings corners) : Numeric naming := by
  obtain ⟨firstX, firstY, secondX, secondY⟩ := numeric
  simp only [namings, List.mem_cons, List.not_mem_nil, or_false] at listed
  rcases listed with rfl | rfl | rfl | rfl <;> constructor <;> assumption

theorem spans_naming {naming : Point Float × Point Float} (listed : naming ∈ namings corners)
    (p : Point Float) : Spans naming p ↔ Spans corners p := by
  simp only [namings, List.mem_cons, List.not_mem_nil, or_false] at listed
  rcases listed with rfl | rfl | rfl | rfl
  · rfl
  · exact and_congr between_comm between_comm
  · exact and_congr_right' between_comm
  · exact and_congr_left' between_comm

theorem contains_of_within (numeric : Numeric inner)
    (within : ∀ p, Spans inner p → Spans outer p) :
    (Box.ofCorners outer.1 outer.2).contains (Box.ofCorners inner.1 inner.2) = true :=
  contains_of_spans (within _ numeric.spans.1) (within _ numeric.spans.2)

end Rectangle

end Corners

namespace Filter

inductive Frame where
  | window
  | crossing

variable {α : Type}

def framed (filter : Filter α) (frame : Frame) (corners : Point α × Point α) : Filter α :=
  match frame with
  | .window => { filter with window := some corners }
  | .crossing => { filter with crossing := some corners }

theorem judges_framed [Scalar α] {filter : Filter α} {frame : Frame}
    {given other : Point α × Point α} {entity : Entity α}
    (judged : (filter.framed frame given).Judges entity) :
    (filter.framed frame other).Judges entity := by
  cases frame with
  | window => exact ⟨judged.kind, fun _ => judged.place (.inl rfl)⟩
  | crossing => exact ⟨judged.kind, fun _ => judged.place (.inr rfl)⟩

theorem Meets.of_larger {filter : Filter Float} {frame : Frame}
    {inner outer : Point Float × Point Float} {entity : Entity Float}
    (wider : (Box.ofCorners outer.1 outer.2).contains (Box.ofCorners inner.1 inner.2) = true)
    (met : (filter.framed frame inner).Meets entity) :
    (filter.framed frame outer).Meets entity := by
  cases frame with
  | window =>
    obtain ⟨box, built, inside⟩ := met.window inner rfl
    refine ⟨met.layer, met.kind, fun corners set => ?_, met.crossing⟩
    cases set
    exact ⟨box, built, Corners.contains_trans wider inside⟩
  | crossing =>
    obtain ⟨box, built, touched⟩ := met.crossing inner rfl
    refine ⟨met.layer, met.kind, met.window, fun corners set => ?_⟩
    cases set
    exact ⟨box, built, Corners.overlaps_of_contains wider touched⟩

open DrawingPlan.Corners

/--
Each of the four names of a rectangle gives the same verdict, and a rectangle with more points in it
accepts and selects more.
-/
theorem framed_by_rectangle (filter : Filter Float) (frame : Frame)
    {inner outer : Point Float × Point Float} (numericInner : Numeric inner)
    (numericOuter : Numeric outer) :
    (∀ entity, (filter.framed frame outer).Judges entity →
      ∃ verdict, ∀ naming ∈ namings outer,
        (filter.framed frame naming).accepts entity = .ok verdict) ∧
      ((∀ p, Spans inner p → Spans outer p) →
        (∀ entity, (filter.framed frame inner).accepts entity = .ok true →
          (filter.framed frame outer).accepts entity = .ok true) ∧
        ∀ drawing : Drawing Float,
          (∀ entity ∈ drawing.liveEntities, (filter.framed frame outer).Judges entity) →
            ∃ few many, drawing.select (some (filter.framed frame inner)) = .ok few ∧
              drawing.select (some (filter.framed frame outer)) = .ok many ∧
              few.Sublist many ∧ many.Pairwise (· < ·)) := by
  constructor
  · intro entity judged
    obtain ⟨verdict, accepted⟩ := judged.verdict
    refine ⟨verdict, fun naming listed => ?_⟩
    have same := spans_naming listed
    have numeric := numericOuter.naming listed
    rw [← accepted]
    refine (judges_framed judged).accepts_congr judged ⟨?_, ?_⟩
    · exact Meets.of_larger (contains_of_within numeric fun p => (same p).mp)
    · exact Meets.of_larger (contains_of_within numericOuter fun p => (same p).mpr)
  · intro within
    have wider (entity : Entity Float) (met : (filter.framed frame inner).Meets entity) :
        (filter.framed frame outer).Meets entity :=
      met.of_larger (contains_of_within numericInner within)
    refine ⟨fun entity accepted => ?_, fun drawing judged => ?_⟩
    · exact accepts_iff_meets.mpr (wider entity (accepts_iff_meets.mp accepted))
    · obtain ⟨few, many, chosen, selected, sublist⟩ :=
        Drawing.select_mono (fun entity live => judges_framed (judged entity live)) judged wider
      exact ⟨few, many, chosen, selected, sublist,
        drawing.pairwise_liveIndexes.sublist (Drawing.select_sublist selected)⟩

theorem framed_by_rectangle_of_open_window :
    let inner : Point Float × Point Float := (⟨0, 2⟩, ⟨3, 1⟩)
    let outer : Point Float × Point Float := (⟨1 / 0, -1⟩, ⟨-0.0, 2⟩)
    let circle : Entity Float := { geometry := some (.circle ⟨1, 1.5⟩ 0.5), layer := "WIRE" }
    let strange : Entity Float := { geometry := some (.circle ⟨0 / 0, 9⟩ 1), layer := "WIRE" }
    let drawing : Drawing Float :=
      { (Drawing.empty : Drawing Float) with entities := [strange, circle] }
    let filter : Filter Float := { layer := some "wire" }
    Numeric inner ∧ Numeric outer ∧ (∀ p, Spans inner p → Spans outer p) ∧
      (∀ entity ∈ drawing.liveEntities, (filter.framed .window outer).Judges entity) ∧
      (∀ naming ∈ namings outer, (filter.framed .window naming).accepts circle = .ok true) ∧
      ∃ many, drawing.select (some (filter.framed .window inner)) = .ok [1] ∧
        drawing.select (some (filter.framed .window outer)) = .ok many ∧ [1].Sublist many := by
  intro inner outer circle strange drawing filter
  have numericInner : Numeric inner := by
    constructor <;> decide +kernel
  have numericOuter : Numeric outer := by
    constructor <;> decide +kernel
  have within : ∀ p, Spans inner p → Spans outer p :=
    Spans.within (by decide +kernel) (by decide +kernel)
  have live : drawing.liveEntities = [strange, circle] := rfl
  have judges : ∀ entity ∈ drawing.liveEntities, (filter.framed .window outer).Judges entity := by
    rw [live]
    intro entity listed
    simp only [List.mem_cons, List.not_mem_nil, or_false] at listed
    rcases listed with rfl | rfl
    · exact ⟨nofun, fun _ => ⟨_, rfl⟩⟩
    · exact ⟨nofun, fun _ => ⟨_, rfl⟩⟩
  obtain ⟨same, grows⟩ := framed_by_rectangle filter .window numericInner numericOuter
  obtain ⟨verdict, named⟩ := same circle (judges circle (by simp [live]))
  have accepted : (filter.framed .window outer).accepts circle = .ok true := by decide +kernel
  cases (named outer (by simp [namings])).symm.trans accepted
  obtain ⟨few, many, chosen, selected, sublist, -⟩ := (grows within).2 drawing judges
  have one : drawing.select (some (filter.framed .window inner)) = .ok [1] := by decide +kernel
  cases chosen.symm.trans one
  exact ⟨numericInner, numericOuter, within, judges, named, many, one, selected, sublist⟩

end Filter

end DrawingPlan
