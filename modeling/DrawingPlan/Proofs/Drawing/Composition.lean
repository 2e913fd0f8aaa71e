import DrawingPlan.Proofs.Drawing.Content

set_option autoImplicit false

namespace DrawingPlan

section Images

variable {α : Type} [Scalar α]

def Attribute.imageBy (image : Point α → Point α) (field : Attribute α) : Attribute α :=
  { field with position := image field.position }

def BlockReference.imageBy (image : Point α → Point α) (turn factor : α)
    (reference : BlockReference α) : BlockReference α :=
  { reference with
    insertion := image reference.insertion
    scale := reference.scale * factor
    rotation := reference.rotation + turn
    attributes := reference.attributes.map (Attribute.imageBy image) }

def Geometry.imageBy (image : Point α → Point α) (turn factor : α) : Geometry α → Geometry α
  | .line start finish => .line (image start) (image finish)
  | .polyline vertices closed => .polyline (vertices.map image) closed
  | .circle center radius => .circle (image center) (radius * Scalar.abs factor)
  | .blockReference reference => .blockReference (reference.imageBy image turn factor)

def Geometry.ownPoints : Geometry α → List (Point α)
  | .line start finish => [start, finish]
  | .polyline vertices _ => vertices
  | .circle center _ => [center]
  | .blockReference reference => reference.insertion :: reference.attributes.map (·.position)

def Entity.points (entity : Entity α) : Except Fault (List (Point α)) :=
  match entity.geometry with
  | none => return []
  | some (.blockReference reference) =>
    return (Geometry.blockReference reference).ownPoints ++
      (← reference.shapes).flatMap Geometry.ownPoints
  | some shape => return shape.ownPoints

variable {t : Transform α} {image : Point α → Point α}

theorem BlockReference.transform_eq (placed : t.place = fun p => .ok (image p))
    (reference : BlockReference α) :
    reference.transform t = .ok (reference.imageBy image t.turn t.factor) := by
  have moved : Attribute.transform t = fun field => .ok (field.imageBy image) := by
    funext field
    rw [Attribute.transform, placed]
    rfl
  have all : reference.attributes.mapM (Attribute.transform t) =
      .ok (reference.attributes.map (Attribute.imageBy image)) := by
    rw [moved]
    exact List.mapM_pure
  rw [transform, all, placed]
  rfl

theorem Geometry.transform_eq (placed : t.place = fun p => .ok (image p)) (geometry : Geometry α) :
    geometry.transform t = .ok (geometry.imageBy image t.turn t.factor) := by
  cases geometry with
  | line start finish =>
    rw [Geometry.transform, placed]
    rfl
  | polyline vertices closed =>
    rw [Geometry.transform, placed]
    exact congrArg (· >>= _) List.mapM_pure
  | circle center radius =>
    rw [Geometry.transform, placed]
    rfl
  | blockReference reference =>
    rw [Geometry.transform, reference.transform_eq placed]
    rfl

theorem Entity.transform_eq (placed : t.place = fun p => .ok (image p)) {entity : Entity α}
    {geometry : Geometry α} (shape : entity.geometry = some geometry) :
    entity.transform t =
      .ok { entity with geometry := some (geometry.imageBy image t.turn t.factor) } := by
  rw [Entity.transform, shape]
  simp only [Geometry.transform_eq placed]
  rfl

theorem Geometry.ownPoints_imageBy (image : Point α → Point α) (turn factor : α)
    (geometry : Geometry α) :
    (geometry.imageBy image turn factor).ownPoints = geometry.ownPoints.map image := by
  cases geometry with
  | line start finish | polyline vertices closed | circle center radius => rfl
  | blockReference reference =>
    simp [imageBy, BlockReference.imageBy, ownPoints, Attribute.imageBy]

theorem Geometry.Image.ownPoints (placed : t.place = fun p => .ok (image p))
    {shape carried : Geometry α} (related : Image t shape carried) :
    carried.ownPoints = shape.ownPoints.map image := by
  cases related with
  | line begins ends =>
    rw [placed, Except.ok.injEq] at begins ends
    simp [Geometry.ownPoints, begins, ends]
  | polyline closed each =>
    have same := List.forall₂_eq_eq_eq ▸ (List.forall₂_map_left_iff (f := image)).mpr
      (each.imp fun p q own => by simpa [placed] using own)
    exact same.symm
  | circle center grown =>
    rw [placed, Except.ok.injEq] at center
    simp [Geometry.ownPoints, center]

end Images

open ExactScalar (hypot cos sin cos_add sin_add cos_zero sin_zero cos_sq_add_sin_sq)
open EuclideanScalar (hypot_nonneg hypot_mul_hypot)

section Composition

variable {α : Type} [ExactScalar α]

namespace Geometry

theorem imageBy_imageBy (f g : Point α → Point α) (a b k l : α) (geometry : Geometry α) :
    (geometry.imageBy f a k).imageBy g b l =
      geometry.imageBy (fun p => g (f p)) (a + b) (k * l) := by
  cases geometry with
  | line start finish => rfl
  | polyline vertices closed => simp [imageBy]
  | circle center radius =>
    have size : radius * |k| * |l| = radius * |k * l| := by rw [abs_mul, mul_assoc]
    exact congrArg (circle _) size
  | blockReference reference =>
    have scale : reference.scale * k * l = reference.scale * (k * l) := mul_assoc ..
    have rotation : reference.rotation + a + b = reference.rotation + (a + b) := add_assoc ..
    simp [imageBy, BlockReference.imageBy, scale, rotation, Attribute.imageBy]

theorem imageBy_id (geometry : Geometry α) : geometry.imageBy (fun p => p) 0 1 = geometry := by
  cases geometry with
  | line start finish => rfl
  | polyline vertices closed => simp [imageBy]
  | circle center radius =>
    have size : radius * |1| = radius := by rw [abs_one, mul_one]
    exact congrArg (circle _) size
  | blockReference reference =>
    obtain ⟨name, insertion, scale, rotation, attributes, definition⟩ := reference
    have grown : scale * 1 = scale := mul_one scale
    have turned : rotation + 0 = rotation := add_zero rotation
    have fields : attributes.map (Attribute.imageBy fun p => p) = attributes := List.map_id _
    rw [imageBy, BlockReference.imageBy, grown, turned, fields]

end Geometry

namespace Transform

def identity : Transform α where
  place := .ok
  turn := 0
  factor := 1

theorem identity_andThen (t : Transform α) : identity.andThen t = t := by
  obtain ⟨place, turn, factor⟩ := t
  exact (Transform.mk.injEq ..).mpr ⟨rfl, zero_add turn, one_mul factor⟩

theorem andThen_identity (t : Transform α) : t.andThen identity = t := by
  obtain ⟨place, turn, factor⟩ := t
  exact (Transform.mk.injEq ..).mpr
    ⟨funext fun p => bind_pure (place p), add_zero turn, mul_one factor⟩

theorem moving_andThen (dx dy ex ey : α) :
    (moving dx dy).andThen (moving ex ey) = moving (dx + ex) (dy + ey) := by
  refine (Transform.mk.injEq ..).mpr ⟨funext fun p => ?_, add_zero 0, mul_one 1⟩
  simp only [moving, Point.translate, bind, Except.bind]
  congr 2 <;> ring

theorem turning_andThen (center : Point α) (a b : α) :
    (turning center a).andThen (turning center b) = turning center (a + b) := by
  refine (Transform.mk.injEq ..).mpr ⟨funext fun p => ?_, rfl, mul_one 1⟩
  simp only [turning, Point.rotate_exact, bind, Except.bind, cos_add, sin_add]
  congr 2 <;> ring

theorem scaling_andThen (center : Point α) (f g : α) :
    (scaling center f).andThen (scaling center g) = scaling center (f * g) := by
  refine (Transform.mk.injEq ..).mpr ⟨funext fun p => ?_, add_zero 0, rfl⟩
  simp only [scaling, Point.scale, bind, Except.bind]
  congr 2 <;> ring

theorem moving_zero : moving (0 : α) 0 = identity := by
  refine (Transform.mk.injEq ..).mpr ⟨funext fun p => ?_, rfl, rfl⟩
  simp only [Point.translate, add_zero]

theorem similar_identity : (identity : Transform α).Similar :=
  moving_zero (α := α) ▸ (Elementary.moving (0 : α) 0).similar

theorem turning_zero (center : Point α) : turning center 0 = identity := by
  refine (Transform.mk.injEq ..).mpr ⟨funext fun p => ?_, rfl, rfl⟩
  simp only [Point.rotate_exact, cos_zero, sin_zero]
  congr 2 <;> ring

theorem scaling_one (center : Point α) : scaling center 1 = identity := by
  refine (Transform.mk.injEq ..).mpr ⟨funext fun p => ?_, rfl, rfl⟩
  simp only [Point.scale, mul_one, add_sub_cancel]

end Transform

namespace Entity

variable {entity : Entity α} {t u : Transform α}

def Composes (entity : Entity α) (first second whole : Transform α) : Prop :=
  ∃ middle last, entity.transform first = .ok middle ∧ middle.transform second = .ok last ∧
    entity.transform whole = .ok last

def Restores (entity : Entity α) (there back : Transform α) : Prop :=
  ∃ moved, entity.transform there = .ok moved ∧ moved.transform back = .ok entity

theorem composes_of_similar (shaped : entity.geometry.isSome) (first : t.Similar)
    (second : u.Similar) : entity.Composes t u (t.andThen u) := by
  obtain ⟨geometry, shape⟩ := Option.isSome_iff_exists.mp shaped
  obtain ⟨image, later, placed, carried, both⟩ := first.place_andThen second
  refine ⟨_, _, Entity.transform_eq placed shape, Entity.transform_eq carried rfl, ?_⟩
  rw [Entity.transform_eq both shape, Geometry.imageBy_imageBy]
  rfl

theorem transform_identity (shaped : entity.geometry.isSome) :
    entity.transform .identity = .ok entity := by
  obtain ⟨geometry, shape⟩ := Option.isSome_iff_exists.mp shaped
  have placed : (Transform.identity : Transform α).place = fun p => .ok p := rfl
  rw [Entity.transform_eq placed shape]
  have same : geometry.imageBy (fun p => p) (Transform.identity : Transform α).turn
      (Transform.identity : Transform α).factor = geometry := geometry.imageBy_id
  rw [same, ← shape]

theorem restores_of_andThen (shaped : entity.geometry.isSome) (there : t.Similar)
    (back : u.Similar) (undone : t.andThen u = .identity) : entity.Restores t u := by
  obtain ⟨moved, last, first, second, whole⟩ := composes_of_similar shaped there back
  rw [undone, transform_identity shaped, Except.ok.injEq] at whole
  exact ⟨moved, first, whole ▸ second⟩

end Entity

end Composition

section Distances

variable {α : Type} [EuclideanScalar α] {t : Transform α}

theorem Transform.Similar.distance {image : Point α → Point α} (similar : t.Similar)
    (placed : t.place = fun p => .ok (image p)) (p q : Point α) :
    (image p).distance (image q) = |t.factor| * p.distance q := by
  obtain ⟨shift, formula⟩ := similar
  have exact (r : Point α) := Except.ok.inj ((congrFun placed r).symm.trans (formula r))
  have circle := cos_sq_add_sin_sq t.turn
  have size : |t.factor| * |t.factor| = t.factor * t.factor := abs_mul_abs_self _
  have before := hypot_mul_hypot (p.x - q.x) (p.y - q.y)
  have after := hypot_mul_hypot ((image p).x - (image q).x) ((image p).y - (image q).y)
  have square : (image p).distance (image q) * (image p).distance (image q) =
      |t.factor| * p.distance q * (|t.factor| * p.distance q) := by
    change hypot _ _ * hypot _ _ = |t.factor| * hypot _ _ * (|t.factor| * hypot _ _)
    rw [after, mul_mul_mul_comm, size, before, exact p, exact q]
    linear_combination t.factor * t.factor *
      ((p.x - q.x) * (p.x - q.x) + (p.y - q.y) * (p.y - q.y)) * circle
  refine (mul_self_inj (hypot_nonneg _ _) (mul_nonneg (abs_nonneg _) ?_)).mp square
  exact hypot_nonneg _ _

namespace Entity

def Spreads (entity : Entity α) (t : Transform α) (ratio : α) : Prop :=
  ∃ moved points image, entity.transform t = .ok moved ∧ entity.points = .ok points ∧
    (t.place = fun p => .ok (image p)) ∧ moved.points = .ok (points.map image) ∧
    ∀ p q : Point α, (image p).distance (image q) = ratio * p.distance q

theorem ownPoints_of_images {image : Point α → Point α}
    (placed : t.place = fun p => .ok (image p)) {shapes images : List (Geometry α)}
    (carried : List.Forall₂ (Geometry.Image t) shapes images) :
    images.flatMap Geometry.ownPoints = (shapes.flatMap Geometry.ownPoints).map image := by
  induction carried with
  | nil => rfl
  | cons own _ ih =>
    rw [List.flatMap_cons, List.flatMap_cons, List.map_append, own.ownPoints placed, ih]

theorem spreads_of_elementary {entity : Entity α} (shaped : entity.geometry.isSome)
    (elementary : t.Elementary) : entity.Spreads t |t.factor| := by
  have similar := elementary.similar
  obtain ⟨geometry, shape⟩ := Option.isSome_iff_exists.mp shaped
  obtain ⟨image, placed⟩ := similar.place_ok
  have transformed := Entity.transform_eq placed shape
  have own := geometry.ownPoints_imageBy image t.turn t.factor
  cases geometry with
  | line start finish | polyline vertices closed | circle center radius =>
    refine ⟨_, _, image, transformed, ?_, placed, congrArg Except.ok own, similar.distance placed⟩
    rw [points, shape]
    rfl
  | blockReference reference =>
    have carried := reference.transform_eq placed
    obtain ⟨shapes, images, before, after, related⟩ :=
      contentShapes_andThen reference.similar_placement similar reference.definition
    have content : (reference.imageBy image t.turn t.factor).shapes = .ok images := by
      rw [BlockReference.shapes, BlockReference.placement_of_transform similar carried]
      exact after
    refine ⟨_, (Geometry.blockReference reference).ownPoints ++ shapes.flatMap Geometry.ownPoints,
      image, transformed, ?_, placed, ?_, similar.distance placed⟩
    · rw [points, shape]
      simp only [BlockReference.shapes, before]
      rfl
    · simp only [points, Geometry.imageBy, content, List.map_append, ← own,
        ← ownPoints_of_images placed related]
      rfl

/--
Transforms of one sort that follow each other make up one of that sort, and can be undone in every
field. Moving and turning keep the distances between points, and scaling multiplies them.
-/
theorem transforms_compose {entity : Entity α} (shaped : entity.geometry.isSome) :
    (∀ center a b, entity.Composes (.turning center a) (.turning center b)
        (.turning center (a + b))) ∧
      (∀ center f g, entity.Composes (.scaling center f) (.scaling center g)
        (.scaling center (f * g))) ∧
      (∀ dx dy ex ey, entity.Composes (.moving dx dy) (.moving ex ey)
        (.moving (dx + ex) (dy + ey))) ∧
      (∀ center a, entity.Restores (.turning center a) (.turning center (-a))) ∧
      (∀ center f, f ≠ 0 → entity.Restores (.scaling center f) (.scaling center (1 / f))) ∧
      (∀ dx dy, entity.Restores (.moving dx dy) (.moving (-dx) (-dy))) ∧
      (∀ center a, entity.Spreads (.turning center a) 1) ∧
      (∀ center f, entity.Spreads (.scaling center f) |f|) ∧
      ∀ dx dy, entity.Spreads (.moving dx dy) 1 := by
  have moving (dx dy : α) := (Transform.Elementary.moving dx dy).similar
  have turning (center : Point α) (a : α) := (Transform.Elementary.turning center a).similar
  have scaling (center : Point α) (f : α) := (Transform.Elementary.scaling center f).similar
  refine ⟨fun center a b => ?_, fun center f g => ?_, fun dx dy ex ey => ?_, fun center a => ?_,
    fun center f nonzero => ?_, fun dx dy => ?_, fun center a => ?_, fun center f => ?_,
    fun dx dy => ?_⟩
  · rw [← Transform.turning_andThen]
    exact composes_of_similar shaped (turning center a) (turning center b)
  · rw [← Transform.scaling_andThen]
    exact composes_of_similar shaped (scaling center f) (scaling center g)
  · rw [← Transform.moving_andThen]
    exact composes_of_similar shaped (moving dx dy) (moving ex ey)
  · refine restores_of_andThen shaped (turning center a) (turning center (-a)) ?_
    rw [Transform.turning_andThen, add_neg_cancel, Transform.turning_zero]
  · refine restores_of_andThen shaped (scaling center f) (scaling center (1 / f)) ?_
    rw [Transform.scaling_andThen, mul_one_div_cancel nonzero, Transform.scaling_one]
  · refine restores_of_andThen shaped (moving dx dy) (moving (-dx) (-dy)) ?_
    rw [Transform.moving_andThen, add_neg_cancel, add_neg_cancel, Transform.moving_zero]
  · have spread := spreads_of_elementary shaped (.turning center a)
    rwa [Transform.turning, abs_one] at spread
  · exact spreads_of_elementary shaped (.scaling center f)
  · have spread := spreads_of_elementary shaped (.moving dx dy)
    rwa [Transform.moving, abs_one] at spread

theorem transforms_compose_of_mirrored_note :
    let pin : BlockDefinition ℝ :=
      ⟨"PIN", ⟨1, 0⟩, [.line ⟨0, 0⟩ ⟨3, 4⟩, .circle ⟨2, 2⟩ (-1)], [], 0⟩
    let field (position : Point ℝ) : Attribute ℝ := { tag := "NAME", value := "P1", position }
    let entity : Entity ℝ :=
      { geometry := some (.blockReference ⟨"PIN", ⟨10, 20⟩, 1 / 2, 1, [field ⟨7, 8⟩], some pin⟩) }
    let mirrored : Entity ℝ :=
      { geometry := some (.blockReference ⟨"PIN", ⟨-11, -37⟩, -1, 1, [field ⟨-5, -13⟩], some pin⟩) }
    entity.geometry.isSome ∧ (-2 : ℝ) ≠ 0 ∧
      entity.Composes (.turning ⟨3, 1⟩ 1) (.turning ⟨3, 1⟩ (-4)) (.turning ⟨3, 1⟩ (1 + -4)) ∧
      entity.transform (.scaling ⟨3, 1⟩ (-2)) = .ok mirrored ∧
      mirrored.transform (.scaling ⟨3, 1⟩ (1 / -2)) = .ok entity ∧
      entity.Spreads (.scaling ⟨3, 1⟩ (-2)) |-2| := by
  intro pin field entity mirrored
  have shaped : entity.geometry.isSome := rfl
  have nonzero : (-2 : ℝ) ≠ 0 := by norm_num
  obtain ⟨turns, -, -, -, restores, -, -, spreads, -⟩ := transforms_compose shaped
  have scaled : entity.transform (.scaling ⟨3, 1⟩ (-2)) = .ok mirrored := by
    have placed : (Transform.scaling ⟨3, 1⟩ (-2) : Transform ℝ).place =
        fun p => .ok ⟨3 + (p.x - 3) * -2, 1 + (p.y - 1) * -2⟩ := rfl
    rw [Entity.transform_eq placed rfl]
    simp only [Geometry.imageBy, BlockReference.imageBy, Attribute.imageBy, Transform.scaling,
      entity, mirrored, field, List.map_cons, List.map_nil]
    norm_num
  obtain ⟨moved, there, back⟩ := restores ⟨3, 1⟩ (-2) nonzero
  cases scaled.symm.trans there
  exact ⟨shaped, nonzero, turns ⟨3, 1⟩ 1 (-4), scaled, back, spreads ⟨3, 1⟩ (-2)⟩

end Entity

end Distances

end DrawingPlan
