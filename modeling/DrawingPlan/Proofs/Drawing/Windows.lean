import DrawingPlan.Proofs.Plane.Box
import DrawingPlan.Proofs.Drawing.Similarity
import DrawingPlan.Proofs.Drawing.Verdicts

set_option autoImplicit false

namespace DrawingPlan

variable {α : Type} [ExactScalar α]

-- The recursion is that of the boxes: the union of two boxes is in order whatever they are, but the
-- first box that is found in a block stands alone.
mutual

theorem Geometry.ordered_boxUnder (t : Transform α) :
    ∀ (geometry : Geometry α) (box : Box α), geometry.boxUnder t = .ok (some box) → box.Ordered
  | .line start finish, box, built => by
    obtain ⟨first, -, later⟩ := bind_ok built
    obtain ⟨last, -, ended⟩ := bind_ok later
    exact Box.ordered_ofPoints (Except.ok.inj ended)
  | .polyline vertices closed, box, built => by
    obtain ⟨placed, -, ended⟩ := bind_ok built
    exact Box.ordered_ofPoints (Except.ok.inj ended)
  | .circle center radius, box, built => by
    obtain ⟨placed, -, ended⟩ := bind_ok built
    cases ended
    exact Box.ordered_ofCircle _ _
  | .blockReference reference, box, built => BlockReference.ordered_boxUnder t reference box built

theorem BlockReference.ordered_boxUnder (t : Transform α) :
    ∀ (reference : BlockReference α) (box : Box α),
      reference.boxUnder t = .ok (some box) → box.Ordered
  | ⟨name, insertion, scale, rotation, attributes, definition⟩, box, built => by
    obtain ⟨moved, -, later⟩ := bind_ok built
    exact ordered_contentBox moved.placement definition box later

theorem ordered_contentBox (t : Transform α) :
    ∀ (definition : Option (BlockDefinition α)) (box : Box α),
      contentBox t definition = .ok (some box) → box.Ordered
  | none, box, built => by cases built
  | some ⟨_, _, items, _, _⟩, box, built =>
    ordered_itemsBox t items none (fun _ found => by cases found) box built

theorem ordered_itemsBox (t : Transform α) :
    ∀ (items : List (Geometry α)) (found : Option (Box α)),
      (∀ box, found = some box → box.Ordered) →
        ∀ box, itemsBox t found items = .ok (some box) → box.Ordered
  | [], found, known, box, built => known box (Except.ok.inj built)
  | item :: rest, found, known, box, built => by
    obtain ⟨own, made, later⟩ := bind_ok built
    have placed : ∀ box, own = some box → box.Ordered := by
      rintro box rfl
      exact Geometry.ordered_boxUnder t item box made
    exact ordered_itemsBox t rest _ (Box.ordered_join known placed) box later

end

theorem Geometry.ordered_box {geometry : Geometry α} {box : Box α}
    (built : geometry.box = .ok (some box)) : box.Ordered := by
  cases geometry with
  | line start finish => exact Box.ordered_ofPoints (Except.ok.inj built)
  | polyline vertices closed => exact Box.ordered_ofPoints (Except.ok.inj built)
  | circle center radius =>
    cases built
    exact Box.ordered_ofCircle _ _
  | blockReference reference => exact ordered_contentBox _ reference.definition box built

theorem Entity.ordered_box {entity : Entity α} {box : Box α}
    (built : entity.box = .ok (some box)) : box.Ordered := by
  unfold Entity.box at built
  split at built
  · cases built
  · exact Geometry.ordered_box built

namespace Filter

/-- What a window encloses it also crosses, since the corners of every box are in order. -/
theorem crossing_of_window (entity : Entity α) (layer kind : Option Text)
    (corners : Point α × Point α) :
    (∀ box, entity.box = .ok (some box) → box.Ordered) ∧
      (accepts { layer, kind, window := some corners } entity = .ok true →
        accepts { layer, kind, crossing := some corners } entity = .ok true) := by
  refine ⟨fun box built => Entity.ordered_box built, fun enclosed => ?_⟩
  obtain ⟨onLayer, ofKind, placed⟩ := accepts_iff.mp enclosed
  obtain ⟨box, built, inside, -⟩ := (acceptsPlace_iff (.inl rfl)).mp placed
  have met : (Box.ofCorners corners.1 corners.2).overlaps box = true :=
    Box.overlaps_of_contains (Entity.ordered_box built) inside
  exact accepts_iff.mpr
    ⟨onLayer, ofKind, (acceptsPlace_iff (.inr rfl)).mpr ⟨box, built, rfl, met⟩⟩

theorem crossing_of_window_of_nested_block :
    let inner : BlockDefinition ℝ := ⟨"PIN", ⟨1, 0⟩, [.line ⟨0, 0⟩ ⟨3, 4⟩], [], 0⟩
    let outer : BlockDefinition ℝ :=
      ⟨"SOCKET", ⟨0, 0⟩,
        [.polyline [] true, .circle ⟨5, 6⟩ (-1),
          .blockReference ⟨"PIN", ⟨8, 9⟩, 2, 0, [], some inner⟩], [], 1⟩
    let reference : BlockReference ℝ := ⟨"SOCKET", ⟨10, 20⟩, -1, Real.pi, [], some outer⟩
    let entity : Entity ℝ := { geometry := some (.blockReference reference), layer := "Wire" }
    let layer : Option Text := some "WIRE"
    let kind : Option Text := some "blockreference"
    let corners : Point ℝ × Point ℝ := (⟨30, 25⟩, ⟨13, 40⟩)
    accepts { layer, kind, window := some corners } entity = .ok true ∧
      accepts { layer, kind, crossing := some corners } entity = .ok true := by
  intro inner outer reference entity layer kind corners
  have size (x : ℝ) : Scalar.abs x = |x| := rfl
  have cosine : ExactScalar.cos Real.pi = -1 := Real.cos_pi
  have sine : ExactScalar.sin Real.pi = 0 := Real.sin_pi
  have built : entity.box = .ok (some ⟨⟨14, 25⟩, ⟨22, 37⟩⟩) := by
    have content : entity.box = contentBox reference.placement (some outer) := rfl
    -- The mirror and the half turn cancel each other.
    have place (p : Point ℝ) : reference.placement.place p = .ok ⟨p.x + 10, p.y + 20⟩ := by
      rw [BlockReference.place_exact]
      simp [reference, outer, BlockReference.base, cosine, sine]
    have turn : reference.placement.turn = Real.pi := rfl
    have factor : reference.placement.factor = -1 := rfl
    rw [content]
    generalize reference.placement = t at place turn factor
    simp only [outer, inner, contentBox, itemsBox, Geometry.boxUnder, BlockReference.boxUnder,
      BlockReference.transform, BlockReference.place_exact, BlockReference.base, List.mapM_nil,
      Bind.bind, Except.bind, pure, Except.pure, place, turn, factor, zero_add, cosine, sine, size]
    norm_num [Box.join?, Box.ofPoints?, Box.ofCircle, Box.union, Box.around, Scalar.least,
      Scalar.greatest, Scalar.less_iff, size]
  have enclosed : accepts { layer, kind, window := some corners } entity = .ok true := by
    refine accepts_iff.mpr ⟨by decide +kernel, by decide +kernel, ?_⟩
    refine (acceptsPlace_iff (.inl rfl)).mpr ⟨_, built, ?_, rfl⟩
    norm_num [acceptsWindow, Box.contains_iff, Box.ofCorners, Box.around, Scalar.least,
      Scalar.greatest, Scalar.less_iff, corners]
  exact ⟨enclosed, (crossing_of_window entity layer kind corners).2 enclosed⟩

end Filter

end DrawingPlan
