import DrawingPlan.Proofs.Plane.Exact
import DrawingPlan.Proofs.Drawing.Faults

set_option autoImplicit false

namespace DrawingPlan

namespace BlockReference

variable {α : Type} [Scalar α]

structure Carried (before : BlockReference α) (t : Transform α) (after : BlockReference α) :
    Prop where
  definition : after.definition = before.definition
  insertion : t.place before.insertion = .ok after.insertion
  scale : after.scale = before.scale * t.factor
  rotation : after.rotation = before.rotation + t.turn
  attributes : before.attributes.mapM (Attribute.transform t) = .ok after.attributes

theorem carried_of_transform {t : Transform α} {before after : BlockReference α}
    (transformed : before.transform t = .ok after) : before.Carried t after := by
  obtain ⟨insertion, inserted, later⟩ := bind_ok transformed
  obtain ⟨attributes, bound, ended⟩ := bind_ok later
  cases ended
  exact ⟨rfl, inserted, rfl, rfl, bound⟩

theorem Carried.base {t : Transform α} {before after : BlockReference α}
    (carried : before.Carried t after) : after.base = before.base := by
  rw [BlockReference.base, carried.definition, BlockReference.base]

end BlockReference

open ExactScalar (cos sin cos_add sin_add cos_zero sin_zero)

variable {α : Type} [ExactScalar α]

namespace Transform

inductive Elementary : Transform α → Prop
  | moving (dx dy : α) : Elementary (.moving dx dy)
  | turning (center : Point α) (angle : α) : Elementary (.turning center angle)
  | scaling (center : Point α) (factor : α) : Elementary (.scaling center factor)

/-- Points are scaled and turned about the origin, by the factor and the angle, and then moved. -/
def Similar (t : Transform α) : Prop :=
  ∃ shift : Point α, ∀ p : Point α, t.place p = .ok
    ⟨shift.x + t.factor * (p.x * cos t.turn - p.y * sin t.turn),
      shift.y + t.factor * (p.x * sin t.turn + p.y * cos t.turn)⟩

theorem Similar.place_ok {t : Transform α} (similar : t.Similar) :
    ∃ image : Point α → Point α, t.place = fun p => .ok (image p) := by
  obtain ⟨shift, placed⟩ := similar
  exact ⟨_, funext placed⟩

def andThen (u t : Transform α) : Transform α where
  place p := u.place p >>= t.place
  turn := u.turn + t.turn
  factor := u.factor * t.factor

theorem andThen_place {u t : Transform α} {p middle last : Point α}
    (first : u.place p = .ok middle) (later : t.place middle = .ok last) :
    (u.andThen t).place p = .ok last := by
  simp only [andThen, first]
  exact later

theorem andThen_assoc (s t u : Transform α) :
    (s.andThen t).andThen u = s.andThen (t.andThen u) := by
  refine (Transform.mk.injEq ..).mpr ⟨?_, add_assoc .., mul_assoc ..⟩
  funext p
  exact bind_assoc ..

theorem Similar.andThen {u t : Transform α} (first : u.Similar) (second : t.Similar) :
    (u.andThen t).Similar := by
  obtain ⟨shift, placed⟩ := first
  obtain ⟨later, carried⟩ := second
  refine ⟨⟨later.x + t.factor * (shift.x * cos t.turn - shift.y * sin t.turn),
    later.y + t.factor * (shift.x * sin t.turn + shift.y * cos t.turn)⟩, fun p => ?_⟩
  simp only [Transform.andThen, placed, carried, bind, Except.bind, cos_add, sin_add]
  congr 2 <;> ring

end Transform

theorem Point.rotate_exact (p center : Point α) (angle : α) :
    p.rotate center angle = .ok
      ⟨center.x + (p.x - center.x) * cos angle - (p.y - center.y) * sin angle,
        center.y + (p.x - center.x) * sin angle + (p.y - center.y) * cos angle⟩ :=
  rfl

theorem Transform.Elementary.similar {t : Transform α} (elementary : t.Elementary) :
    t.Similar := by
  cases elementary with
  | moving dx dy =>
    refine ⟨⟨dx, dy⟩, fun p => ?_⟩
    simp only [Transform.moving, Point.translate, cos_zero, sin_zero]
    congr 2 <;> ring
  | turning center angle =>
    refine ⟨⟨center.x - center.x * cos angle + center.y * sin angle,
      center.y - center.x * sin angle - center.y * cos angle⟩, fun p => ?_⟩
    simp only [Transform.turning, Point.rotate_exact]
    congr 2 <;> ring
  | scaling center factor =>
    refine ⟨⟨center.x - factor * center.x, center.y - factor * center.y⟩, fun p => ?_⟩
    simp only [Transform.scaling, Point.scale, cos_zero, sin_zero]
    congr 2 <;> ring

namespace BlockReference

theorem place_exact (reference : BlockReference α) (p : Point α) :
    reference.placement.place p = .ok
      ⟨reference.scale * ((p.x - reference.base.x) * cos reference.rotation -
          (p.y - reference.base.y) * sin reference.rotation) + reference.insertion.x,
        reference.scale * ((p.x - reference.base.x) * sin reference.rotation +
          (p.y - reference.base.y) * cos reference.rotation) + reference.insertion.y⟩ := by
  simp only [placement, Point.scale, Point.rotate_exact, Point.origin, Bind.bind, Except.bind, pure,
    Except.pure]
  congr 2 <;> ring

theorem similar_placement (reference : BlockReference α) : reference.placement.Similar := by
  refine ⟨⟨reference.insertion.x - reference.scale * (reference.base.x * cos reference.rotation -
      reference.base.y * sin reference.rotation),
    reference.insertion.y - reference.scale * (reference.base.x * sin reference.rotation +
      reference.base.y * cos reference.rotation)⟩, fun p => ?_⟩
  rw [place_exact]
  simp only [placement]
  congr 2 <;> ring

/-- A transformed reference places its block as before, and then as the transform does. -/
theorem placement_of_transform {t : Transform α} (similar : t.Similar)
    {reference moved : BlockReference α} (transformed : reference.transform t = .ok moved) :
    moved.placement = reference.placement.andThen t := by
  have carried := carried_of_transform transformed
  obtain ⟨shift, placed⟩ := similar
  have inserted := carried.insertion
  rw [placed, Except.ok.injEq] at inserted
  have place (p : Point α) :
      moved.placement.place p = (reference.placement.andThen t).place p := by
    simp only [Transform.andThen, place_exact, carried.base, carried.rotation, carried.scale,
      ← inserted, Bind.bind, Except.bind, placed, cos_add, sin_add]
    congr 2 <;> ring
  exact (Transform.mk.injEq ..).mpr ⟨funext place, carried.rotation, carried.scale⟩

theorem transform_ok {t : Transform α} (similar : t.Similar) (reference : BlockReference α) :
    ∃ moved, reference.transform t = .ok moved := by
  cases transformed : reference.transform t with
  | ok moved => exact ⟨moved, rfl⟩
  | error fault =>
    obtain ⟨p, failed⟩ := transform_error transformed
    obtain ⟨image, placed⟩ := similar.place_ok
    rw [placed] at failed
    cases failed

end BlockReference

end DrawingPlan
