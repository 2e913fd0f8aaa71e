import Mathlib.Data.List.Basic
import Mathlib.Data.List.Forall2
import Mathlib.Data.List.ReduceOption
import DrawingPlan.Proofs.Plane.Exact
import DrawingPlan.Plane.Box

set_option autoImplicit false

namespace DrawingPlan

variable {α : Type} [ExactScalar α]

namespace Scalar

theorem less_iff {x y : α} : less x y = true ↔ x < y :=
  decide_eq_true_iff

theorem less_eq_false_iff {x y : α} : less x y = false ↔ y ≤ x :=
  decide_eq_false_iff_not.trans not_lt

theorem atMost_iff {x y : α} : atMost x y = true ↔ x ≤ y :=
  decide_eq_true_iff

theorem le_least_iff {bound first : α} {others : List α} :
    bound ≤ least first others ↔ bound ≤ first ∧ ∀ x ∈ others, bound ≤ x := by
  induction others generalizing first with
  | nil => simp [least]
  | cons x rest ih =>
    have step : least first (x :: rest) = least (min x first) rest := by
      simp [least, less_iff, min_def_lt]
    rw [step, ih, le_min_iff, List.forall_mem_cons]
    exact and_congr_left' and_comm |>.trans and_assoc

theorem greatest_le_iff {bound first : α} {others : List α} :
    greatest first others ≤ bound ↔ first ≤ bound ∧ ∀ x ∈ others, x ≤ bound := by
  induction others generalizing first with
  | nil => simp [greatest]
  | cons x rest ih =>
    have step : greatest first (x :: rest) = greatest (max first x) rest := by
      simp [greatest, less_iff, max_def_lt]
    rw [step, ih, max_le_iff, List.forall_mem_cons, and_assoc]

theorem least_le_greatest (first : α) (others more : List α) :
    least first others ≤ greatest first more :=
  (le_least_iff.mp le_rfl).1.trans (greatest_le_iff.mp le_rfl).1

end Scalar

namespace Box

structure Ordered (box : Box α) : Prop where
  x : box.low.x ≤ box.high.x
  y : box.low.y ≤ box.high.y

theorem ordered_around (first : Point α) (others : List (Point α)) :
    (around first others).Ordered where
  x := Scalar.least_le_greatest _ _ _
  y := Scalar.least_le_greatest _ _ _

theorem ordered_ofPoints {points : List (Point α)} {box : Box α}
    (built : ofPoints? points = some box) : box.Ordered := by
  cases points with
  | nil => cases built
  | cons first others =>
    cases built
    exact ordered_around first others

theorem ordered_ofCircle (center : Point α) (radius : α) : (ofCircle center radius).Ordered := by
  have size : 0 ≤ |radius| := abs_nonneg radius
  exact ⟨(sub_le_self _ size).trans (le_add_of_nonneg_right size),
    (sub_le_self _ size).trans (le_add_of_nonneg_right size)⟩

theorem ordered_join {a b : Option (Box α)} (first : ∀ box, a = some box → box.Ordered)
    (second : ∀ box, b = some box → box.Ordered) :
    ∀ box, join? a b = some box → box.Ordered := by
  intro box joined
  cases a with
  | none => exact second box joined
  | some known =>
    cases b with
    | none => exact first box joined
    | some other =>
      cases joined
      exact ordered_around _ _

theorem contains_iff {outer inner : Box α} :
    outer.contains inner = true ↔
      (outer.low.x ≤ inner.low.x ∧ inner.high.x ≤ outer.high.x) ∧
        outer.low.y ≤ inner.low.y ∧ inner.high.y ≤ outer.high.y := by
  simp only [contains, Bool.and_eq_true, Scalar.atMost_iff, and_assoc]

theorem overlaps_iff {a b : Box α} :
    a.overlaps b = true ↔
      (a.low.x ≤ b.high.x ∧ b.low.x ≤ a.high.x) ∧ a.low.y ≤ b.high.y ∧ b.low.y ≤ a.high.y := by
  simp only [overlaps, separated, Bool.not_eq_true', Bool.or_eq_false_iff,
    Scalar.less_eq_false_iff, and_assoc]

theorem overlaps_of_contains {outer inner : Box α} (ordered : inner.Ordered)
    (inside : outer.contains inner = true) : outer.overlaps inner = true := by
  obtain ⟨⟨left, right⟩, bottom, top⟩ := contains_iff.mp inside
  exact overlaps_iff.mpr ⟨⟨left.trans ordered.x, ordered.x.trans right⟩,
    bottom.trans ordered.y, ordered.y.trans top⟩

theorem contains_rfl {box : Box α} : box.contains box = true :=
  contains_iff.mpr ⟨⟨le_rfl, le_rfl⟩, le_rfl, le_rfl⟩

theorem contains_trans {a b c : Box α} (first : a.contains b = true)
    (second : b.contains c = true) : a.contains c = true := by
  obtain ⟨⟨left, right⟩, bottom, top⟩ := contains_iff.mp first
  obtain ⟨⟨left', right'⟩, bottom', top'⟩ := contains_iff.mp second
  exact contains_iff.mpr
    ⟨⟨left.trans left', right'.trans right⟩, bottom.trans bottom', top'.trans top⟩

theorem contains_antisymm {a b : Box α} (first : a.contains b = true)
    (second : b.contains a = true) : a = b := by
  obtain ⟨⟨x, y⟩, ⟨x', y'⟩⟩ := a
  obtain ⟨⟨z, w⟩, ⟨z', w'⟩⟩ := b
  obtain ⟨⟨left, right⟩, bottom, top⟩ := contains_iff.mp first
  obtain ⟨⟨left', right'⟩, bottom', top'⟩ := contains_iff.mp second
  cases left.antisymm left'
  cases right'.antisymm right
  cases bottom.antisymm bottom'
  cases top'.antisymm top
  rfl

def ofPoint (p : Point α) : Box α :=
  ⟨p, p⟩

theorem ordered_ofPoint (p : Point α) : (ofPoint p).Ordered :=
  ⟨le_rfl, le_rfl⟩

theorem contains_around_iff {outer : Box α} {first : Point α} {others : List (Point α)} :
    outer.contains (around first others) = true ↔
      ∀ p ∈ first :: others, outer.contains (ofPoint p) = true := by
  simp only [contains_iff, around, ofPoint, Scalar.le_least_iff, Scalar.greatest_le_iff,
    List.forall_mem_cons, List.forall_mem_map, forall_and]

theorem contains_iff_corners {outer box : Box α} (ordered : box.Ordered) :
    outer.contains box = true ↔
      outer.contains (ofPoint box.low) = true ∧ outer.contains (ofPoint box.high) = true := by
  simp only [contains_iff, ofPoint]
  constructor
  · rintro ⟨⟨left, right⟩, bottom, top⟩
    exact ⟨⟨⟨left, ordered.x.trans right⟩, bottom, ordered.y.trans top⟩,
      ⟨left.trans ordered.x, right⟩, bottom.trans ordered.y, top⟩
  · rintro ⟨⟨⟨left, -⟩, bottom, -⟩, ⟨-, right⟩, -, top⟩
    exact ⟨⟨left, right⟩, bottom, top⟩

theorem contains_union_iff {outer a b : Box α} (first : a.Ordered) (second : b.Ordered) :
    outer.contains (a.union b) = true ↔ outer.contains a = true ∧ outer.contains b = true := by
  rw [union, contains_around_iff, contains_iff_corners first, contains_iff_corners second]
  simp [and_assoc]

structure Least (box : Box α) (parts : List (Box α)) : Prop where
  encloses : ∀ part ∈ parts, box.contains part = true
  least : ∀ outer : Box α, (∀ part ∈ parts, outer.contains part = true) →
    outer.contains box = true

theorem least_iff {box : Box α} {parts : List (Box α)} :
    box.Least parts ↔ ∀ outer : Box α,
      outer.contains box = true ↔ ∀ part ∈ parts, outer.contains part = true := by
  constructor
  · rintro ⟨encloses, least⟩ outer
    exact ⟨fun inside part listed => contains_trans inside (encloses part listed), least outer⟩
  · intro bounds
    exact ⟨(bounds box).mp contains_rfl, fun outer => (bounds outer).mpr⟩

/-- The least box around some boxes, where there is any: no boxes have none around them. -/
def Hull : Option (Box α) → List (Box α) → Prop
  | none, parts => parts = []
  | some box, parts => parts ≠ [] ∧ box.Least parts

namespace Hull

variable {found other : Option (Box α)} {parts others : List (Box α)}

theorem eq_none_iff (hull : Hull found parts) : found = none ↔ parts = [] := by
  cases found with
  | none => exact iff_of_true rfl hull
  | some box => exact iff_of_false nofun hull.1

theorem of_toList (found : Option (Box α)) : Hull found found.toList := by
  cases found with
  | none => rfl
  | some box => exact ⟨nofun, least_iff.mpr fun outer => by simp⟩

theorem ofPoints (points : List (Point α)) : Hull (ofPoints? points) (points.map ofPoint) := by
  cases points with
  | nil => rfl
  | cons first rest =>
    refine ⟨nofun, least_iff.mpr fun outer => ?_⟩
    rw [contains_around_iff, List.forall_mem_map]

theorem unique (hull : Hull found parts) (again : Hull other others)
    (same : ∀ part, part ∈ parts ↔ part ∈ others) : found = other := by
  have empty : parts = [] ↔ others = [] := by
    simp only [List.eq_nil_iff_forall_not_mem, same]
  cases found with
  | none => exact (again.eq_none_iff.mpr (empty.mp hull)).symm
  | some box =>
    cases other with
    | none => exact hull.eq_none_iff.mpr (empty.mpr again)
    | some box' =>
      have bounds := least_iff.mp hull.2
      have bounds' := least_iff.mp again.2
      simp only [same] at bounds
      exact congrArg some (contains_antisymm
        ((bounds' box).mpr ((bounds box).mp contains_rfl))
        ((bounds box').mpr ((bounds' box').mp contains_rfl)))

theorem ordered (hull : Hull found parts) (each : ∀ part ∈ parts, part.Ordered) {box : Box α}
    (same : found = some box) : box.Ordered := by
  subst same
  obtain ⟨nonempty, least⟩ := hull
  obtain ⟨part, listed⟩ := List.exists_mem_of_ne_nil parts nonempty
  obtain ⟨⟨left, right⟩, bottom, top⟩ := contains_iff.mp (least.encloses part listed)
  have inner := each part listed
  exact ⟨left.trans (inner.x.trans right), bottom.trans (inner.y.trans top)⟩

theorem join (hull : Hull found parts) (more : Hull other others)
    (each : ∀ part ∈ parts ++ others, part.Ordered) :
    Hull (join? found other) (parts ++ others) := by
  obtain ⟨first, second⟩ := List.forall_mem_append.mp each
  cases found with
  | none =>
    cases (hull : parts = [])
    exact more
  | some box =>
    cases other with
    | none =>
      cases (more : others = [])
      rw [List.append_nil]
      exact hull
    | some box' =>
      refine ⟨by simp [hull.1], least_iff.mpr fun outer => ?_⟩
      rw [contains_union_iff (hull.ordered first rfl) (more.ordered second rfl),
        least_iff.mp hull.2, least_iff.mp more.2, List.forall_mem_append]

theorem foldl_join {founds : List (Option (Box α))} {lists : List (List (Box α))}
    (each : List.Forall₂ Hull founds lists) (hull : Hull found parts)
    (first : ∀ part ∈ parts, part.Ordered) (rest : ∀ part ∈ lists.flatten, part.Ordered) :
    Hull (founds.foldl join? found) (parts ++ lists.flatten) := by
  induction each generalizing found parts with
  | nil => simpa using hull
  | cons own _ ih =>
    rw [List.flatten_cons, List.forall_mem_append] at rest
    have both := List.forall_mem_append.mpr ⟨first, rest.1⟩
    rw [List.flatten_cons, ← List.append_assoc]
    exact ih (hull.join own both) both rest.2

theorem of_reduceOption {boxes : List (Option (Box α))}
    (each : ∀ part ∈ boxes.reduceOption, part.Ordered) :
    Hull (boxes.foldl join? none) boxes.reduceOption := by
  have own : List.Forall₂ Hull boxes (boxes.map Option.toList) := by
    rw [List.forall₂_map_right_iff, List.forall₂_same]
    exact fun box _ => of_toList box
  have parts : boxes.reduceOption = (boxes.map Option.toList).flatten :=
    List.filterMap_eq_flatMap_toList id boxes
  have start : Hull (none : Option (Box α)) [] := rfl
  rw [parts] at each ⊢
  exact foldl_join own start nofun each

end Hull

end Box

end DrawingPlan
