import Mathlib.Order.Monotone.Basic
import Mathlib.Order.Lattice
import DrawingPlan.Proofs.Drawing.Composition
import DrawingPlan.Proofs.Drawing.Enclosure

set_option autoImplicit false

namespace DrawingPlan

open ExactScalar (cos_zero sin_zero)

variable {α : Type} [ExactScalar α]

namespace Scalar

theorem least_eq_foldl (first : α) (others : List α) :
    least first others = others.foldl min first := by
  induction others generalizing first with
  | nil => rfl
  | cons x rest ih =>
    rw [List.foldl_cons, ← ih, min_comm]
    simp [least, less_iff, min_def_lt]

theorem greatest_eq_foldl (first : α) (others : List α) :
    greatest first others = others.foldl max first := by
  induction others generalizing first with
  | nil => rfl
  | cons x rest ih =>
    rw [List.foldl_cons, ← ih]
    simp [greatest, less_iff, max_def_lt]

variable {f : α → α}

theorem least_map_of_monotone (monotone : Monotone f) (first : α) (others : List α) :
    least (f first) (others.map f) = f (least first others) := by
  rw [least_eq_foldl, least_eq_foldl, List.foldl_map]
  exact List.foldl_hom f fun _ _ => monotone.map_min.symm

theorem greatest_map_of_monotone (monotone : Monotone f) (first : α) (others : List α) :
    greatest (f first) (others.map f) = f (greatest first others) := by
  rw [greatest_eq_foldl, greatest_eq_foldl, List.foldl_map]
  exact List.foldl_hom f fun _ _ => monotone.map_max.symm

theorem least_map_of_antitone (antitone : Antitone f) (first : α) (others : List α) :
    least (f first) (others.map f) = f (greatest first others) := by
  rw [least_eq_foldl, greatest_eq_foldl, List.foldl_map]
  exact List.foldl_hom f fun _ _ => antitone.map_max.symm

theorem greatest_map_of_antitone (antitone : Antitone f) (first : α) (others : List α) :
    greatest (f first) (others.map f) = f (least first others) := by
  rw [least_eq_foldl, greatest_eq_foldl, List.foldl_map]
  exact List.foldl_hom f fun _ _ => antitone.map_min.symm

end Scalar

def Point.stretch (p shift : Point α) (factor : α) : Point α :=
  ⟨shift.x + factor * p.x, shift.y + factor * p.y⟩

namespace Box

def stretch (box : Box α) (shift : Point α) (factor : α) : Box α :=
  ofCorners (box.low.stretch shift factor) (box.high.stretch shift factor)

theorem ofCorners_eq (a b : Point α) :
    ofCorners a b = ⟨⟨min a.x b.x, min a.y b.y⟩, ⟨max a.x b.x, max a.y b.y⟩⟩ := by
  simp [ofCorners, around, Scalar.least_eq_foldl, Scalar.greatest_eq_foldl]

theorem ofCorners_comm (a b : Point α) : ofCorners a b = ofCorners b a := by
  simp only [ofCorners_eq, min_comm, max_comm]

theorem ofCorners_of_le {a b : Point α} (x : a.x ≤ b.x) (y : a.y ≤ b.y) :
    ofCorners a b = ⟨a, b⟩ := by
  rw [ofCorners_eq, min_eq_left x, min_eq_left y, max_eq_right x, max_eq_right y]

variable {box : Box α} {shift : Point α} {factor : α}

theorem stretch_of_nonneg (ordered : box.Ordered) (upright : 0 ≤ factor) :
    box.stretch shift factor = ⟨box.low.stretch shift factor, box.high.stretch shift factor⟩ :=
  ofCorners_of_le (add_le_add_right (mul_le_mul_of_nonneg_left ordered.x upright) _)
    (add_le_add_right (mul_le_mul_of_nonneg_left ordered.y upright) _)

theorem stretch_of_nonpos (ordered : box.Ordered) (mirrored : factor ≤ 0) :
    box.stretch shift factor = ⟨box.high.stretch shift factor, box.low.stretch shift factor⟩ := by
  rw [stretch, ofCorners_comm]
  exact ofCorners_of_le (add_le_add_right (mul_le_mul_of_nonpos_left ordered.x mirrored) _)
    (add_le_add_right (mul_le_mul_of_nonpos_left ordered.y mirrored) _)

theorem stretch_around (first : Point α) (others : List (Point α)) :
    (around first others).stretch shift factor =
      around (first.stretch shift factor) (others.map (·.stretch shift factor)) := by
  have xs : (others.map (·.stretch shift factor)).map (·.x) =
      (others.map (·.x)).map fun x => shift.x + factor * x := by simp [Point.stretch]
  have ys : (others.map (·.stretch shift factor)).map (·.y) =
      (others.map (·.y)).map fun y => shift.y + factor * y := by simp [Point.stretch]
  rcases le_total 0 factor with upright | mirrored
  · have monotone (s : α) : Monotone fun x => s + factor * x := fun _ _ le =>
      add_le_add_right (mul_le_mul_of_nonneg_left le upright) s
    rw [stretch_of_nonneg (ordered_around first others) upright, around, around, xs, ys]
    simp only [Point.stretch, Scalar.least_map_of_monotone (monotone _),
      Scalar.greatest_map_of_monotone (monotone _)]
  · have antitone (s : α) : Antitone fun x => s + factor * x := fun _ _ le =>
      add_le_add_right (mul_le_mul_of_nonpos_left le mirrored) s
    rw [stretch_of_nonpos (ordered_around first others) mirrored, around, around, xs, ys]
    simp only [Point.stretch, Scalar.least_map_of_antitone (antitone _),
      Scalar.greatest_map_of_antitone (antitone _)]

theorem stretch_ofCircle (center : Point α) (radius : α) :
    (ofCircle center radius).stretch shift factor =
      ofCircle (center.stretch shift factor) (radius * |factor|) := by
  have ordered := ordered_ofCircle center radius
  have circle (p : Point α) (r : α) :
      ofCircle p r = ⟨⟨p.x - |r|, p.y - |r|⟩, ⟨p.x + |r|, p.y + |r|⟩⟩ := rfl
  rcases le_total 0 factor with upright | mirrored
  · have size : |radius * (|factor|)| = |radius| * factor := by
      rw [abs_mul, abs_abs, abs_of_nonneg upright]
    rw [stretch_of_nonneg ordered upright]
    simp only [circle, size, Point.stretch]
    congr 2 <;> ring
  · have size : |radius * (|factor|)| = |radius| * -factor := by
      rw [abs_mul, abs_abs, abs_of_nonpos mirrored]
    rw [stretch_of_nonpos ordered mirrored]
    simp only [circle, size, Point.stretch]
    congr 2 <;> ring

theorem stretch_ofPoints (points : List (Point α)) :
    (ofPoints? points).map (·.stretch shift factor) =
      ofPoints? (points.map (·.stretch shift factor)) := by
  cases points with
  | nil => rfl
  | cons first rest => exact congrArg some (stretch_around first rest)

theorem union_around (p q : Point α) (ps qs : List (Point α)) :
    (around p ps).union (around q qs) = around p (ps ++ q :: qs) := by
  have bounds (outer : Box α) : outer.contains ((around p ps).union (around q qs)) = true ↔
      outer.contains (around p (ps ++ q :: qs)) = true := by
    rw [contains_union_iff (ordered_around p ps) (ordered_around q qs), contains_around_iff,
      contains_around_iff, contains_around_iff, ← List.forall_mem_append, List.cons_append]
  exact contains_antisymm ((bounds _).mp contains_rfl) ((bounds _).mpr contains_rfl)

theorem stretch_union (a b : Box α) :
    (a.union b).stretch shift factor =
      (a.stretch shift factor).union (b.stretch shift factor) := by
  rw [union, stretch_around, stretch, ofCorners, stretch, ofCorners, union_around]
  rfl

theorem join_stretch (shift : Point α) (factor : α) (a b : Option (Box α)) :
    join? (a.map (·.stretch shift factor)) (b.map (·.stretch shift factor)) =
      (join? a b).map (·.stretch shift factor) := by
  cases a with
  | none => rfl
  | some a =>
    cases b with
    | none => rfl
    | some b => exact congrArg some (stretch_union a b).symm

end Box

namespace Transform

structure Stretches (t : Transform α) (shift : Point α) : Prop where
  place : t.place = fun p => .ok (p.stretch shift t.factor)
  turn : t.turn = 0

theorem Stretches.place_andThen {u t : Transform α} {shift : Point α}
    (stretches : t.Stretches shift) {image : Point α → Point α}
    (placed : u.place = fun p => .ok (image p)) :
    (u.andThen t).place = fun p => .ok ((image p).stretch shift t.factor) :=
  funext fun p => Transform.andThen_place (congrFun placed p) (congrFun stretches.place (image p))

theorem stretches_moving (dx dy : α) : (moving dx dy).Stretches ⟨dx, dy⟩ := by
  refine ⟨funext fun p => ?_, rfl⟩
  simp only [moving, Point.translate, Point.stretch]
  congr 2 <;> ring

theorem stretches_scaling (center : Point α) (factor : α) :
    (scaling center factor).Stretches
      ⟨center.x - factor * center.x, center.y - factor * center.y⟩ := by
  refine ⟨funext fun p => ?_, rfl⟩
  simp only [scaling, Point.scale, Point.stretch]
  congr 2 <;> ring

theorem Stretches.similar {t : Transform α} {shift : Point α} (stretches : t.Stretches shift) :
    t.Similar := by
  refine ⟨shift, fun p => ?_⟩
  simp only [stretches.place, stretches.turn, cos_zero, sin_zero, Point.stretch]
  congr 2 <;> ring

end Transform

section Recursion

variable {t : Transform α} {shift : Point α}

-- The recursion is that of the boxes. The placement of the references on the way down comes first,
-- and the move or scaling stays the last.
mutual

theorem Geometry.boxUnder_andThen {u : Transform α} (first : u.Similar)
    (stretches : t.Stretches shift) :
    ∀ geometry : Geometry α, geometry.boxUnder (u.andThen t) =
      (geometry.boxUnder u).map (Option.map (·.stretch shift t.factor))
  | .line start finish => by
    obtain ⟨image, placed⟩ := first.place_ok
    rw [Geometry.boxUnder, Geometry.boxUnder, stretches.place_andThen placed, placed]
    exact congrArg Except.ok (Box.stretch_ofPoints [image start, image finish]).symm
  | .polyline vertices closed => by
    obtain ⟨image, placed⟩ := first.place_ok
    have before : vertices.mapM u.place = .ok (vertices.map image) := by
      rw [placed]
      exact List.mapM_pure
    have after : vertices.mapM (u.andThen t).place =
        .ok ((vertices.map image).map (·.stretch shift t.factor)) := by
      rw [stretches.place_andThen placed, List.map_map]
      exact List.mapM_pure
    rw [Geometry.boxUnder, Geometry.boxUnder, before, after]
    exact congrArg Except.ok (Box.stretch_ofPoints (vertices.map image)).symm
  | .circle center radius => by
    obtain ⟨image, placed⟩ := first.place_ok
    have size : radius * |u.factor * t.factor| = radius * |u.factor| * |t.factor| := by
      rw [abs_mul, mul_assoc]
    rw [Geometry.boxUnder, Geometry.boxUnder, stretches.place_andThen placed, placed]
    change Except.ok (some (Box.ofCircle _ (radius * |u.factor * t.factor|))) = _
    rw [size, ← Box.stretch_ofCircle]
    rfl
  | .blockReference reference => BlockReference.boxUnder_andThen first stretches reference

theorem BlockReference.boxUnder_andThen {u : Transform α} (first : u.Similar)
    (stretches : t.Stretches shift) :
    ∀ reference : BlockReference α, reference.boxUnder (u.andThen t) =
      (reference.boxUnder u).map (Option.map (·.stretch shift t.factor))
  | ⟨name, insertion, scale, rotation, attributes, definition⟩ => by
    rw [BlockReference.boxUnder_eq first,
      BlockReference.boxUnder_eq (first.andThen stretches.similar), ← Transform.andThen_assoc]
    exact contentBox_andThen ((BlockReference.similar_placement _).andThen first) stretches
      definition

theorem contentBox_andThen {u : Transform α} (first : u.Similar)
    (stretches : t.Stretches shift) :
    ∀ definition : Option (BlockDefinition α), contentBox (u.andThen t) definition =
      (contentBox u definition).map (Option.map (·.stretch shift t.factor))
  | none => rfl
  | some ⟨_, _, items, _, _⟩ => itemsBox_andThen first stretches items none

theorem itemsBox_andThen {u : Transform α} (first : u.Similar)
    (stretches : t.Stretches shift) :
    ∀ (items : List (Geometry α)) (found : Option (Box α)),
      itemsBox (u.andThen t) (found.map (·.stretch shift t.factor)) items =
        (itemsBox u found items).map (Option.map (·.stretch shift t.factor))
  | [], found => rfl
  | item :: rest, found => by
    rw [itemsBox, itemsBox, Geometry.boxUnder_andThen first stretches item]
    cases item.boxUnder u with
    | error fault => rfl
    | ok box =>
      have joined := Box.join_stretch shift t.factor found box
      change itemsBox _ (Box.join? _ _) rest = (itemsBox u _ rest).map _
      rw [joined]
      exact itemsBox_andThen first stretches rest _

end

theorem Geometry.boxUnder_identity (geometry : Geometry α) :
    geometry.boxUnder .identity = geometry.box := by
  cases geometry with
  | line start finish => rfl
  | polyline vertices closed =>
    have same : vertices.mapM (Transform.identity : Transform α).place = .ok vertices :=
      List.mapM_pure.trans (congrArg Except.ok vertices.map_id)
    rw [Geometry.boxUnder, same]
    rfl
  | circle center radius =>
    have size : radius * |1| = radius := by rw [abs_one, mul_one]
    exact congrArg (fun r => Except.ok (some (Box.ofCircle center r))) size
  | blockReference reference =>
    rw [Geometry.boxUnder, BlockReference.boxUnder_eq Transform.similar_identity,
      Transform.andThen_identity]
    rfl

theorem Entity.box_ok (entity : Entity α) : ∃ found, entity.box = .ok found := by
  cases shape : entity.geometry with
  | none => exact ⟨none, by rw [Entity.box, shape]⟩
  | some geometry =>
    obtain ⟨-, found, -, built, -⟩ := geometry.framedBy Transform.similar_identity
    refine ⟨found, ?_⟩
    rw [Entity.box, shape, ← built]
    exact geometry.boxUnder_identity.symm

theorem Entity.box_of_stretches (stretches : t.Stretches shift) {entity : Entity α}
    (shaped : entity.geometry.isSome) {found : Option (Box α)} (built : entity.box = .ok found) :
    ∃ moved, entity.transform t = .ok moved ∧
      moved.box = .ok (found.map (·.stretch shift t.factor)) := by
  obtain ⟨geometry, shape⟩ := Option.isSome_iff_exists.mp shaped
  obtain ⟨image, placed⟩ := stretches.similar.place_ok
  refine ⟨_, Entity.transform_eq placed shape, ?_⟩
  have before : geometry.box = .ok found := by
    rw [← built, Entity.box, shape]
  have after := Geometry.boxUnder_andThen Transform.similar_identity stretches geometry
  rw [Transform.identity_andThen, Geometry.boxUnder_identity, before] at after
  rw [← Geometry.box_of_transform, Geometry.transform_eq placed] at after
  exact after

end Recursion

namespace Entity

/--
The box of an entity is moved along with it. It is scaled with it too: the box of before is scaled
at two corners, and spanned by these. An entity without a box stays without one.
-/
theorem box_follows {entity : Entity α} (shaped : entity.geometry.isSome) :
    ∃ found, entity.box = .ok found ∧
      (∀ dx dy, ∃ moved, entity.transform (.moving dx dy) = .ok moved ∧
        moved.box = .ok (found.map (·.translate dx dy))) ∧
      ∀ center factor, ∃ scaled, entity.transform (.scaling center factor) = .ok scaled ∧
        scaled.box = .ok (found.map fun box =>
          .ofCorners (box.low.scale center factor) (box.high.scale center factor)) := by
  obtain ⟨found, built⟩ := entity.box_ok
  refine ⟨found, built, fun dx dy => ?_, fun center factor => ?_⟩
  · have stretches := Transform.stretches_moving dx dy
    obtain ⟨moved, transformed, boxed⟩ := box_of_stretches stretches shaped built
    refine ⟨moved, transformed, boxed.trans (congrArg Except.ok ?_)⟩
    cases found with
    | none => rfl
    | some box =>
      have image (p : Point α) : p.stretch ⟨dx, dy⟩ 1 = p.translate dx dy :=
        (Except.ok.inj (congrFun stretches.place p)).symm
      have kept : box.stretch ⟨dx, dy⟩ 1 = box.translate dx dy := by
        rw [Box.stretch_of_nonneg (ordered_box built) zero_le_one, image, image]
        rfl
      exact congrArg some kept
  · have stretches := Transform.stretches_scaling center factor
    obtain ⟨scaled, transformed, boxed⟩ := box_of_stretches stretches shaped built
    have image (p : Point α) :
        p.stretch ⟨center.x - factor * center.x, center.y - factor * center.y⟩ factor =
          p.scale center factor :=
      (Except.ok.inj (congrFun stretches.place p)).symm
    refine ⟨scaled, transformed, boxed.trans ?_⟩
    simp only [Box.stretch, Transform.scaling, image]

theorem box_follows_of_mirrored_socket :
    let pin : BlockDefinition ℝ := ⟨"PIN", ⟨1, 0⟩, [.line ⟨0, 0⟩ ⟨3, 4⟩], [], 0⟩
    let socket : BlockDefinition ℝ := ⟨"SOCKET", ⟨0, 0⟩,
      [.blockReference ⟨"PIN", ⟨8, 9⟩, 2, 0, [], some pin⟩, .circle ⟨5, 6⟩ (-1)], [], 1⟩
    let reference : BlockReference ℝ := ⟨"SOCKET", ⟨10, 20⟩, 3, 0, [], some socket⟩
    let entity : Entity ℝ := { geometry := some (.blockReference reference) }
    entity.geometry.isSome ∧ entity.box = .ok (some ⟨⟨22, 35⟩, ⟨46, 71⟩⟩) ∧
      (∃ moved, entity.transform (.moving (-1) 2) = .ok moved ∧
        moved.box = .ok (some ⟨⟨21, 37⟩, ⟨45, 73⟩⟩)) ∧
      ∃ scaled, entity.transform (.scaling ⟨3, 1⟩ (-2)) = .ok scaled ∧
        scaled.box = .ok (some ⟨⟨-83, -139⟩, ⟨-35, -67⟩⟩) := by
  intro pin socket reference entity
  have shaped : entity.geometry.isSome := rfl
  have built : entity.box = .ok (some ⟨⟨22, 35⟩, ⟨46, 71⟩⟩) := by
    have size (x : ℝ) : Scalar.abs x = |x| := rfl
    have place (p : Point ℝ) : reference.placement.place p = .ok ⟨3 * p.x + 10, 3 * p.y + 20⟩ := by
      rw [BlockReference.place_exact]
      simp [reference, socket, BlockReference.base, cos_zero, sin_zero]
    have turn : reference.placement.turn = 0 := rfl
    have factor : reference.placement.factor = 3 := rfl
    change contentBox reference.placement (some socket) = _
    generalize reference.placement = t at place turn factor
    simp only [socket, pin, contentBox, itemsBox, Geometry.boxUnder, BlockReference.boxUnder,
      BlockReference.transform, BlockReference.place_exact, BlockReference.base, List.mapM_nil,
      bind, Except.bind, pure, Except.pure, place, turn, factor, add_zero, cos_zero, sin_zero,
      size]
    norm_num [Box.join?, Box.ofPoints?, Box.ofCircle, Box.union, Box.around,
      Scalar.least_eq_foldl, Scalar.greatest_eq_foldl, size]
  obtain ⟨found, same, moves, scales⟩ := box_follows shaped
  cases built.symm.trans same
  obtain ⟨moved, carried, boxed⟩ := moves (-1) 2
  obtain ⟨scaled, transformed, mirrored⟩ := scales ⟨3, 1⟩ (-2)
  refine ⟨shaped, built, ⟨moved, carried, boxed.trans ?_⟩, scaled, transformed, mirrored.trans ?_⟩
  · norm_num [Box.translate, Point.translate]
  · norm_num [Box.ofCorners_eq, Point.scale]

end Entity

end DrawingPlan
