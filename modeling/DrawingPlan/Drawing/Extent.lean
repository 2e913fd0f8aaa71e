import DrawingPlan.Drawing.Transform

set_option autoImplicit false

namespace DrawingPlan

variable {α : Type} [Scalar α]

mutual

def Geometry.boxUnder (t : Transform α) : Geometry α → Except Fault (Option (Box α))
  | .line start finish => return Box.ofPoints? [← t.place start, ← t.place finish]
  | .polyline vertices _ => return Box.ofPoints? (← vertices.mapM t.place)
  | .circle center radius =>
    return some (Box.ofCircle (← t.place center) (radius * Scalar.abs t.factor))
  | .blockReference reference => reference.boxUnder t

def BlockReference.boxUnder (t : Transform α) : BlockReference α → Except Fault (Option (Box α))
  | ⟨name, insertion, scale, rotation, attributes, definition⟩ => do
    let moved ← BlockReference.transform t
      ⟨name, insertion, scale, rotation, attributes, definition⟩
    contentBox moved.placement definition

def contentBox (t : Transform α) : Option (BlockDefinition α) → Except Fault (Option (Box α))
  | none => return none
  | some ⟨_, _, items, _, _⟩ => itemsBox t none items

def itemsBox (t : Transform α) (found : Option (Box α)) :
    List (Geometry α) → Except Fault (Option (Box α))
  | [] => return found
  | item :: rest => do
    let box ← item.boxUnder t
    itemsBox t (Box.join? found box) rest

end

def Geometry.box : Geometry α → Except Fault (Option (Box α))
  | .line start finish => return Box.ofPoints? [start, finish]
  | .polyline vertices _ => return Box.ofPoints? vertices
  | .circle center radius => return some (Box.ofCircle center radius)
  | .blockReference reference => contentBox reference.placement reference.definition

theorem BlockReference.definition_of_transform {t : Transform α}
    {reference moved : BlockReference α}
    (transformed : reference.transform t = .ok moved) :
    moved.definition = reference.definition := by
  simp only [BlockReference.transform, bind, Except.bind, pure, Except.pure] at transformed
  split at transformed
  next => contradiction
  next =>
    split at transformed
    next => contradiction
    next => cases transformed; rfl

theorem Geometry.box_of_transform (t : Transform α) (geometry : Geometry α) :
    (geometry.transform t).bind Geometry.box = geometry.boxUnder t := by
  cases geometry with
  | line start finish =>
    simp only [Geometry.transform, Geometry.boxUnder, bind, Except.bind, pure, Except.pure]
    cases t.place start <;> cases t.place finish <;> rfl
  | polyline vertices closed =>
    simp only [Geometry.transform, Geometry.boxUnder, bind, Except.bind, pure, Except.pure]
    cases vertices.mapM t.place <;> rfl
  | circle center radius =>
    simp only [Geometry.transform, Geometry.boxUnder, bind, Except.bind, pure, Except.pure]
    cases t.place center <;> rfl
  | blockReference reference =>
    obtain ⟨name, insertion, scale, rotation, attributes, definition⟩ := reference
    simp only [Geometry.transform, Geometry.boxUnder, BlockReference.boxUnder, bind, Except.bind,
      pure, Except.pure]
    cases transformed :
        BlockReference.transform t ⟨name, insertion, scale, rotation, attributes, definition⟩ with
    | error fault => rfl
    | ok moved =>
      simp only [Geometry.box, BlockReference.definition_of_transform transformed]

end DrawingPlan
