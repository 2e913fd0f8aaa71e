import Mathlib.Data.List.Forall2
import DrawingPlan.Proofs.Drawing.Similarity
import DrawingPlan.Drawing.Entity

set_option autoImplicit false

namespace DrawingPlan

section Shapes

variable {α : Type} [Scalar α]

mutual

/-- The shapes that a piece of geometry consists of once it is transformed. -/
def Geometry.shapesUnder (t : Transform α) : Geometry α → Except Fault (List (Geometry α))
  | .line start finish => return [← (Geometry.line start finish).transform t]
  | .polyline vertices closed => return [← (Geometry.polyline vertices closed).transform t]
  | .circle center radius => return [← (Geometry.circle center radius).transform t]
  | .blockReference reference => reference.shapesUnder t

def BlockReference.shapesUnder (t : Transform α) :
    BlockReference α → Except Fault (List (Geometry α))
  | ⟨name, insertion, scale, rotation, attributes, definition⟩ => do
    let moved ← BlockReference.transform t
      ⟨name, insertion, scale, rotation, attributes, definition⟩
    contentShapes moved.placement definition

def contentShapes (t : Transform α) :
    Option (BlockDefinition α) → Except Fault (List (Geometry α))
  | none => return []
  | some ⟨_, _, items, _, _⟩ => itemsShapes t items

def itemsShapes (t : Transform α) : List (Geometry α) → Except Fault (List (Geometry α))
  | [] => return []
  | item :: rest => do
    let shapes ← item.shapesUnder t
    return shapes ++ (← itemsShapes t rest)

end

def BlockReference.shapes (reference : BlockReference α) : Except Fault (List (Geometry α)) :=
  contentShapes reference.placement reference.definition

/-- A shape and its image: points go where the transform places them, radii grow with its factor. -/
inductive Geometry.Image (t : Transform α) : Geometry α → Geometry α → Prop
  | line {start finish first last : Point α} (begins : t.place start = .ok first)
      (ends : t.place finish = .ok last) : Image t (.line start finish) (.line first last)
  | polyline {vertices images : List (Point α)} (closed : Bool)
      (placed : List.Forall₂ (fun p q => t.place p = .ok q) vertices images) :
      Image t (.polyline vertices closed) (.polyline images closed)
  | circle {center image : Point α} {radius size : α} (placed : t.place center = .ok image)
      (grown : Scalar.abs size = Scalar.abs radius * Scalar.abs t.factor) :
      Image t (.circle center radius) (.circle image size)

end Shapes

variable {α : Type} [ExactScalar α]

theorem BlockReference.shapesUnder_eq {t : Transform α} (similar : t.Similar)
    (reference : BlockReference α) :
    reference.shapesUnder t =
      contentShapes (reference.placement.andThen t) reference.definition := by
  obtain ⟨moved, transformed⟩ := reference.transform_ok similar
  rw [← placement_of_transform similar transformed]
  obtain ⟨name, insertion, scale, rotation, attributes, definition⟩ := reference
  rw [shapesUnder, transformed]
  rfl

theorem Transform.Similar.place_andThen {u t : Transform α} (first : u.Similar)
    (last : t.Similar) :
    ∃ image later : Point α → Point α, (u.place = fun p => .ok (image p)) ∧
      (t.place = fun p => .ok (later p)) ∧
      (u.andThen t).place = fun p => .ok (later (image p)) := by
  obtain ⟨image, placed⟩ := first.place_ok
  obtain ⟨later, carried⟩ := last.place_ok
  exact ⟨image, later, placed, carried, funext fun p =>
    andThen_place (congrFun placed p) (congrFun carried (image p))⟩

theorem size_of_scaled_twice (radius u t : α) :
    Scalar.abs (radius * Scalar.abs (u * t)) =
      Scalar.abs (radius * Scalar.abs u) * Scalar.abs t := by
  change abs (radius * abs (u * t)) = abs (radius * abs u) * abs t
  rw [abs_mul u t, ← mul_assoc, abs_mul _ (abs t), abs_abs]

def CarriedBy (t : Transform α) (before after : Except Fault (List (Geometry α))) : Prop :=
  ∃ shapes images, before = .ok shapes ∧ after = .ok images ∧
    List.Forall₂ (Geometry.Image t) shapes images

-- The recursion goes down the items of a block; the transform that places them gets longer by the
-- placement of each reference on the way, and `t` stays the last.
mutual

theorem Geometry.shapesUnder_andThen {u t : Transform α} (first : u.Similar) (last : t.Similar) :
    ∀ geometry : Geometry α,
      CarriedBy t (geometry.shapesUnder u) (geometry.shapesUnder (u.andThen t))
  | .line start finish => by
    obtain ⟨image, later, placed, carried, both⟩ := first.place_andThen last
    refine ⟨[.line (image start) (image finish)],
      [.line (later (image start)) (later (image finish))], ?_, ?_, ?_⟩
    · rw [Geometry.shapesUnder, Geometry.transform, placed]
      rfl
    · rw [Geometry.shapesUnder, Geometry.transform, both]
      rfl
    · exact .cons (.line (by rw [carried]) (by rw [carried])) .nil
  | .polyline vertices closed => by
    obtain ⟨image, later, placed, carried, both⟩ := first.place_andThen last
    refine ⟨[.polyline (vertices.map image) closed],
      [.polyline (vertices.map fun p => later (image p)) closed], ?_, ?_, ?_⟩
    · rw [Geometry.shapesUnder, Geometry.transform, placed]
      exact congrArg (· >>= _) (congrArg (· >>= _) List.mapM_pure)
    · rw [Geometry.shapesUnder, Geometry.transform, both]
      exact congrArg (· >>= _) (congrArg (· >>= _) List.mapM_pure)
    · refine .cons (.polyline closed ?_) .nil
      rw [List.forall₂_map_left_iff, List.forall₂_map_right_iff, List.forall₂_same]
      exact fun p _ => by rw [carried]
  | .circle center radius => by
    obtain ⟨image, later, placed, carried, both⟩ := first.place_andThen last
    refine ⟨[.circle (image center) (radius * Scalar.abs u.factor)],
      [.circle (later (image center)) (radius * Scalar.abs (u.factor * t.factor))], ?_, ?_, ?_⟩
    · rw [Geometry.shapesUnder, Geometry.transform, placed]
      rfl
    · rw [Geometry.shapesUnder, Geometry.transform, both]
      rfl
    · refine .cons (.circle (by rw [carried]) ?_) .nil
      exact size_of_scaled_twice radius u.factor t.factor
  | .blockReference reference => BlockReference.shapesUnder_andThen first last reference

theorem BlockReference.shapesUnder_andThen {u t : Transform α} (first : u.Similar)
    (last : t.Similar) :
    ∀ reference : BlockReference α,
      CarriedBy t (reference.shapesUnder u) (reference.shapesUnder (u.andThen t))
  | ⟨name, insertion, scale, rotation, attributes, definition⟩ => by
    rw [BlockReference.shapesUnder_eq first, BlockReference.shapesUnder_eq (first.andThen last),
      ← Transform.andThen_assoc]
    exact contentShapes_andThen ((BlockReference.similar_placement _).andThen first) last definition

theorem contentShapes_andThen {u t : Transform α} (first : u.Similar) (last : t.Similar) :
    ∀ definition : Option (BlockDefinition α),
      CarriedBy t (contentShapes u definition) (contentShapes (u.andThen t) definition)
  | none => ⟨[], [], rfl, rfl, .nil⟩
  | some ⟨_, _, items, _, _⟩ => itemsShapes_andThen first last items

theorem itemsShapes_andThen {u t : Transform α} (first : u.Similar) (last : t.Similar) :
    ∀ items : List (Geometry α),
      CarriedBy t (itemsShapes u items) (itemsShapes (u.andThen t) items)
  | [] => ⟨[], [], rfl, rfl, .nil⟩
  | item :: rest => by
    obtain ⟨shapes, images, made, carried, related⟩ :=
      Geometry.shapesUnder_andThen first last item
    obtain ⟨others, theirs, madeThen, carriedThen, relatedThen⟩ :=
      itemsShapes_andThen first last rest
    refine ⟨shapes ++ others, images ++ theirs, ?_, ?_, List.rel_append related relatedThen⟩
    · rw [itemsShapes, made, madeThen]
      rfl
    · rw [itemsShapes, carried, carriedThen]
      rfl

end

/-- A transform of an entity that holds a reference carries all that the reference places. -/
theorem Entity.content_of_transform {t : Transform α} (elementary : t.Elementary)
    {entity : Entity α} {reference : BlockReference α}
    (holds : entity.geometry = some (.blockReference reference)) :
    ∃ moved shapes images,
      entity.transform t = .ok { entity with geometry := some (.blockReference moved) } ∧
        reference.shapes = .ok shapes ∧ moved.shapes = .ok images ∧
        List.Forall₂ (Geometry.Image t) shapes images := by
  have similar := elementary.similar
  obtain ⟨moved, transformed⟩ := reference.transform_ok similar
  obtain ⟨shapes, images, before, after, carried⟩ :=
    contentShapes_andThen reference.similar_placement similar reference.definition
  refine ⟨moved, shapes, images, ?_, before, ?_, carried⟩
  · rw [Entity.transform, holds]
    simp only [Geometry.transform, transformed]
    rfl
  · rw [BlockReference.shapes, BlockReference.placement_of_transform similar transformed,
      BlockReference.definition_of_transform transformed]
    exact after

theorem Entity.content_of_transform_of_nested_block :
    let inner : BlockDefinition ℝ :=
      ⟨"PIN", ⟨1, 0⟩, [.line ⟨0, 0⟩ ⟨3, 4⟩, .polyline [⟨1, 2⟩, ⟨3, 5⟩] true], [], 0⟩
    let outer : BlockDefinition ℝ :=
      ⟨"SOCKET", ⟨0, 2⟩,
        [.circle ⟨5, 6⟩ (-7), .blockReference ⟨"PIN", ⟨8, 9⟩, -3, 2, [], some inner⟩], [], 1⟩
    let reference : BlockReference ℝ := ⟨"SOCKET", ⟨10, 20⟩, 1 / 2, 1, [], some outer⟩
    let entity : Entity ℝ := { geometry := some (.blockReference reference) }
    let t : Transform ℝ := .scaling ⟨3, 1⟩ (-2)
    t.Elementary ∧ entity.geometry = some (.blockReference reference) ∧
      ∃ moved shapes images,
        entity.transform t = .ok { entity with geometry := some (.blockReference moved) } ∧
          reference.shapes = .ok shapes ∧ moved.shapes = .ok images ∧ shapes.length = 3 ∧
          List.Forall₂ (Geometry.Image t) shapes images := by
  intro inner outer reference entity t
  have elementary : t.Elementary := .scaling ⟨3, 1⟩ (-2)
  obtain ⟨moved, shapes, images, transformed, before, after, carried⟩ :=
    Entity.content_of_transform elementary (rfl : entity.geometry = _)
  refine ⟨elementary, rfl, moved, shapes, images, transformed, before, after, ?_, carried⟩
  cases before
  rfl

end DrawingPlan
