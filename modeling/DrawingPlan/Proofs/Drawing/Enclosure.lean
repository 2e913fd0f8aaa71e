import DrawingPlan.Proofs.Drawing.Content
import DrawingPlan.Proofs.Drawing.Windows

set_option autoImplicit false

namespace DrawingPlan

section Items

variable {α : Type} [Scalar α] {t : Transform α}

def BlockReference.placedItems (reference : BlockReference α) : Except Fault (List (Geometry α)) :=
  match reference.definition with
  | none => return []
  | some definition => definition.items.mapM (Geometry.transform reference.placement)

theorem mapM_box_of_mapM_transform {items : List (Geometry α)} {boxes : List (Option (Box α))}
    (measured : items.mapM (Geometry.boxUnder t) = .ok boxes) :
    ∃ placed, items.mapM (Geometry.transform t) = .ok placed ∧
      placed.mapM Geometry.box = .ok boxes := by
  induction items generalizing boxes with
  | nil => exact ⟨[], rfl, measured⟩
  | cons item rest ih =>
    obtain ⟨own, others, first, later, rfl⟩ := mapM_cons_ok measured
    obtain ⟨placed, carried, boxed⟩ := ih later
    rw [← Geometry.box_of_transform] at first
    obtain ⟨image, transformed, box⟩ := bind_ok first
    refine ⟨image :: placed, ?_, ?_⟩
    · rw [List.mapM_cons, transformed, carried]
      rfl
    · rw [List.mapM_cons, box, boxed]
      rfl

theorem itemsBox_eq_foldl {items : List (Geometry α)} {boxes : List (Option (Box α))}
    (measured : items.mapM (Geometry.boxUnder t) = .ok boxes) (found : Option (Box α)) :
    itemsBox t found items = .ok (boxes.foldl Box.join? found) := by
  induction items generalizing boxes found with
  | nil =>
    cases measured
    rfl
  | cons item rest ih =>
    obtain ⟨own, others, first, later, rfl⟩ := mapM_cons_ok measured
    rw [itemsBox, first]
    exact ih later _

theorem itemsShapes_eq_flatten {items : List (Geometry α)} {lists : List (List (Geometry α))}
    (unfolded : items.mapM (Geometry.shapesUnder t) = .ok lists) :
    itemsShapes t items = .ok lists.flatten := by
  induction items generalizing lists with
  | nil =>
    cases unfolded
    rfl
  | cons item rest ih =>
    obtain ⟨own, others, first, later, rfl⟩ := mapM_cons_ok unfolded
    rw [itemsShapes, first, ih later]
    rfl

end Items

open ExactScalar (cos_zero sin_zero)

variable {α : Type} [ExactScalar α]

/-- What the box of a shape is made of: line ends, polyline vertices, and the box of a circle. -/
def Geometry.marks : Geometry α → List (Box α)
  | .line start finish => [.ofPoint start, .ofPoint finish]
  | .polyline vertices _ => vertices.map .ofPoint
  | .circle center radius => [.ofCircle center radius]
  | .blockReference _ => []

theorem Geometry.ordered_of_mem_marks {shape : Geometry α} {part : Box α}
    (listed : part ∈ shape.marks) : part.Ordered := by
  cases shape with
  | line start finish =>
    simp only [marks, List.mem_cons, List.not_mem_nil, or_false] at listed
    rcases listed with rfl | rfl
    · exact Box.ordered_ofPoint start
    · exact Box.ordered_ofPoint finish
  | polyline vertices closed =>
    obtain ⟨p, -, rfl⟩ := List.mem_map.mp listed
    exact Box.ordered_ofPoint p
  | circle center radius =>
    cases List.mem_singleton.mp listed
    exact Box.ordered_ofCircle center radius
  | blockReference reference => cases listed

structure Framed (shapes : List (Geometry α)) (found : Option (Box α)) : Prop where
  unfolded : ∀ shape ∈ shapes, shape.kind ≠ .blockReference
  hull : Box.Hull found (shapes.flatMap Geometry.marks)

def FramedBy (unfolding : Except Fault (List (Geometry α)))
    (measuring : Except Fault (Option (Box α))) : Prop :=
  ∃ shapes found, unfolding = .ok shapes ∧ measuring = .ok found ∧ Framed shapes found

theorem ordered_of_mem_flatMap_marks {shapes : List (Geometry α)} {part : Box α}
    (listed : part ∈ shapes.flatMap Geometry.marks) : part.Ordered := by
  obtain ⟨shape, -, marked⟩ := List.mem_flatMap.mp listed
  exact Geometry.ordered_of_mem_marks marked

theorem Framed.single {shape : Geometry α} {found : Option (Box α)}
    (plain : shape.kind ≠ .blockReference) (hull : Box.Hull found shape.marks) :
    Framed [shape] found where
  unfolded := by simpa using plain
  hull := by simpa using hull

theorem Framed.flatten {lists : List (List (Geometry α))} {boxes : List (Option (Box α))}
    (each : List.Forall₂ Framed lists boxes) :
    Framed lists.flatten (boxes.foldl Box.join? none) where
  unfolded shape listed := by
    induction each with
    | nil => cases listed
    | cons own _ ih =>
      rcases List.mem_append.mp listed with here | later
      · exact own.unfolded shape here
      · exact ih later
  hull := by
    have hulls : List.Forall₂ Box.Hull boxes (lists.map (List.flatMap Geometry.marks)) := by
      rw [List.forall₂_map_right_iff]
      exact each.flip.imp fun _ _ framed => framed.hull
    have marks : (lists.map (List.flatMap Geometry.marks)).flatten =
        lists.flatten.flatMap Geometry.marks := by
      rw [List.flatMap_def, List.map_flatten, List.flatten_flatten, List.map_map]
      rfl
    have start : Box.Hull (none : Option (Box α)) [] := rfl
    have joined := Box.Hull.foldl_join hulls start nofun fun part listed => by
      rw [marks] at listed
      exact ordered_of_mem_flatMap_marks listed
    rwa [List.nil_append, marks] at joined

theorem BlockReference.boxUnder_eq {t : Transform α} (similar : t.Similar)
    (reference : BlockReference α) :
    reference.boxUnder t =
      contentBox (reference.placement.andThen t) reference.definition := by
  obtain ⟨moved, transformed⟩ := reference.transform_ok similar
  rw [← placement_of_transform similar transformed]
  obtain ⟨name, insertion, scale, rotation, attributes, definition⟩ := reference
  rw [boxUnder, transformed]
  rfl

def FramesEach (t : Transform α) (items : List (Geometry α)) : Prop :=
  ∃ lists boxes, items.mapM (Geometry.shapesUnder t) = .ok lists ∧
    items.mapM (Geometry.boxUnder t) = .ok boxes ∧ List.Forall₂ Framed lists boxes

theorem FramesEach.framedBy {t : Transform α} {items : List (Geometry α)}
    (each : FramesEach t items) : FramedBy (itemsShapes t items) (itemsBox t none items) := by
  obtain ⟨lists, boxes, unfolded, measured, framed⟩ := each
  exact ⟨_, _, itemsShapes_eq_flatten unfolded, itemsBox_eq_foldl measured none, .flatten framed⟩

-- The recursion is that of the boxes, and of the shapes; the transform is the placement of the
-- references on the way down, which is a similarity again at each of them.
mutual

theorem Geometry.framedBy {t : Transform α} (similar : t.Similar) :
    ∀ geometry : Geometry α, FramedBy (geometry.shapesUnder t) (geometry.boxUnder t)
  | .line start finish => by
    obtain ⟨image, placed⟩ := similar.place_ok
    refine ⟨[.line (image start) (image finish)],
      Box.ofPoints? [image start, image finish], ?_, ?_, .single nofun (.ofPoints _)⟩
    · rw [Geometry.shapesUnder, Geometry.transform, placed]
      rfl
    · rw [Geometry.boxUnder, placed]
      rfl
  | .polyline vertices closed => by
    obtain ⟨image, placed⟩ := similar.place_ok
    refine ⟨[.polyline (vertices.map image) closed], Box.ofPoints? (vertices.map image), ?_, ?_,
      .single nofun (.ofPoints _)⟩
    · rw [Geometry.shapesUnder, Geometry.transform, placed]
      exact congrArg (· >>= _) (congrArg (· >>= _) List.mapM_pure)
    · rw [Geometry.boxUnder, placed]
      exact congrArg (· >>= _) List.mapM_pure
  | .circle center radius => by
    obtain ⟨image, placed⟩ := similar.place_ok
    refine ⟨[.circle (image center) (radius * Scalar.abs t.factor)],
      some (.ofCircle (image center) (radius * Scalar.abs t.factor)), ?_, ?_,
      .single nofun (.of_toList (some _))⟩
    · rw [Geometry.shapesUnder, Geometry.transform, placed]
      rfl
    · rw [Geometry.boxUnder, placed]
      rfl
  | .blockReference reference => BlockReference.framedBy similar reference

theorem BlockReference.framedBy {t : Transform α} (similar : t.Similar) :
    ∀ reference : BlockReference α, FramedBy (reference.shapesUnder t) (reference.boxUnder t)
  | ⟨name, insertion, scale, rotation, attributes, definition⟩ => by
    rw [BlockReference.shapesUnder_eq similar, BlockReference.boxUnder_eq similar]
    exact content_framedBy ((BlockReference.similar_placement _).andThen similar) definition

theorem content_framedBy {t : Transform α} (similar : t.Similar) :
    ∀ definition : Option (BlockDefinition α),
      FramedBy (contentShapes t definition) (contentBox t definition)
  | none => ⟨[], none, rfl, rfl, nofun, rfl⟩
  | some ⟨_, _, items, _, _⟩ => (items_framesEach similar items).framedBy

theorem items_framesEach {t : Transform α} (similar : t.Similar) :
    ∀ items : List (Geometry α), FramesEach t items
  | [] => ⟨[], [], rfl, rfl, .nil⟩
  | item :: rest => by
    obtain ⟨shapes, found, unfolded, measured, own⟩ := Geometry.framedBy similar item
    obtain ⟨lists, boxes, others, more, each⟩ := items_framesEach similar rest
    refine ⟨shapes :: lists, found :: boxes, ?_, ?_, .cons own each⟩
    · rw [List.mapM_cons, unfolded, others]
      rfl
    · rw [List.mapM_cons, measured, more]
      rfl

end

theorem hull_of_measured {t : Transform α} {items : List (Geometry α)}
    {boxes : List (Option (Box α))} (measured : items.mapM (Geometry.boxUnder t) = .ok boxes) :
    Box.Hull (boxes.foldl Box.join? none) boxes.reduceOption := by
  refine Box.Hull.of_reduceOption fun part listed => ?_
  rw [List.reduceOption_mem_iff, mem_mapM_ok_iff measured] at listed
  obtain ⟨item, -, built⟩ := listed
  exact Geometry.ordered_boxUnder t item part built

namespace BlockReference

theorem box_framed (reference : BlockReference α) :
    ∃ placed boxes shapes found, reference.placedItems = .ok placed ∧
      placed.mapM Geometry.box = .ok boxes ∧ reference.shapes = .ok shapes ∧
      (Geometry.blockReference reference).box = .ok found ∧ Framed shapes found ∧
      Box.Hull found boxes.reduceOption := by
  obtain ⟨name, insertion, scale, rotation, attributes, definition⟩ := reference
  cases definition with
  | none => exact ⟨[], [], [], none, rfl, rfl, rfl, rfl, ⟨nofun, rfl⟩, rfl⟩
  | some definition =>
    obtain ⟨own, base, items, fields, serial⟩ := definition
    obtain ⟨lists, boxes, unfolded, measured, framed⟩ := items_framesEach
      (similar_placement ⟨name, insertion, scale, rotation, attributes,
        some ⟨own, base, items, fields, serial⟩⟩) items
    obtain ⟨placed, carried, boxed⟩ := mapM_box_of_mapM_transform measured
    exact ⟨placed, boxes, _, _, carried, boxed, itemsShapes_eq_flatten unfolded,
      itemsBox_eq_foldl measured none, .flatten framed, hull_of_measured measured⟩

end BlockReference

/-- Blocks that hold the same items in another order, or do so in a block that an item refers to. -/
inductive BlockDefinition.Reordered : BlockDefinition α → BlockDefinition α → Prop
  | own {name : Text} {base : Point α} {items others : List (Geometry α)}
      {fields : List (AttributeDefinition α)} {serial : Serial} (order : items.Perm others) :
      Reordered ⟨name, base, items, fields, serial⟩ ⟨name, base, others, fields, serial⟩
  | inner {name : Text} {base : Point α} {fields : List (AttributeDefinition α)} {serial : Serial}
      (before later : List (Geometry α)) (reference : BlockReference α)
      {definition other : BlockDefinition α} (inside : Reordered definition other) :
      Reordered
        ⟨name, base, before ++ .blockReference { reference with definition := some definition } ::
          later, fields, serial⟩
        ⟨name, base, before ++ .blockReference { reference with definition := some other } ::
          later, fields, serial⟩
  | trans {first second third : BlockDefinition α} (one : Reordered first second)
      (two : Reordered second third) : Reordered first third

theorem itemsBox_perm {t : Transform α} (similar : t.Similar) {items others : List (Geometry α)}
    (order : items.Perm others) : itemsBox t none others = itemsBox t none items := by
  obtain ⟨-, boxes, -, measured, -⟩ := items_framesEach similar items
  obtain ⟨-, boxes', -, measured', -⟩ := items_framesEach similar others
  rw [itemsBox_eq_foldl measured, itemsBox_eq_foldl measured', Except.ok.injEq]
  refine (hull_of_measured measured').unique (hull_of_measured measured) fun part => ?_
  simp only [List.reduceOption_mem_iff, mem_mapM_ok_iff measured, mem_mapM_ok_iff measured',
    order.mem_iff]

theorem itemsBox_replace {t : Transform α} {item other : Geometry α}
    (same : other.boxUnder t = item.boxUnder t) (before later : List (Geometry α))
    (found : Option (Box α)) :
    itemsBox t found (before ++ other :: later) = itemsBox t found (before ++ item :: later) := by
  induction before generalizing found with
  | nil => simp only [List.nil_append, itemsBox, same]
  | cons first rest ih => simp only [List.cons_append, itemsBox, ih]

namespace BlockReference

theorem placement_of_base {reference : BlockReference α} {definition other : BlockDefinition α}
    (same : other.base = definition.base) :
    placement { reference with definition := some other } =
      placement { reference with definition := some definition } := by
  simp only [placement, base, same]

end BlockReference

theorem BlockDefinition.Reordered.contentBox {definition other : BlockDefinition α}
    (reordered : definition.Reordered other) :
    other.base = definition.base ∧ ∀ t : Transform α, t.Similar →
      contentBox t (some other) = contentBox t (some definition) := by
  induction reordered with
  | own order => exact ⟨rfl, fun t similar => itemsBox_perm similar order⟩
  | inner before later reference _ ih =>
    refine ⟨rfl, fun t similar => itemsBox_replace ?_ before later none⟩
    rw [Geometry.boxUnder, Geometry.boxUnder, BlockReference.boxUnder_eq similar,
      BlockReference.boxUnder_eq similar, BlockReference.placement_of_base ih.1]
    exact ih.2 _ ((BlockReference.similar_placement _).andThen similar)
  | trans _ _ one two =>
    exact ⟨two.1.trans one.1, fun t similar => (two.2 t similar).trans (one.2 t similar)⟩

/--
The box of a reference is the least one around the boxes of its placed items, and around all that
these unfold to. The order of items, also of those in a nested block, does not matter.
-/
theorem BlockReference.box_least (reference : BlockReference α) :
    ∃ placed boxes shapes found, reference.placedItems = .ok placed ∧
      placed.mapM Geometry.box = .ok boxes ∧ reference.shapes = .ok shapes ∧
      (Geometry.blockReference reference).box = .ok found ∧
      (found = none ↔ reference.definition = none ∨ ∀ box ∈ boxes, box = none) ∧
      (∀ box, found = some box → box.Least boxes.reduceOption) ∧
      (∀ shape ∈ shapes, shape.kind ≠ .blockReference) ∧
      (∀ box, found = some box → box.Least (shapes.flatMap Geometry.marks)) ∧
      ∀ definition other, reference.definition = some definition → definition.Reordered other →
        (Geometry.blockReference { reference with definition := some other }).box = .ok found := by
  obtain ⟨placed, boxes, shapes, found, carried, boxed, unfolded, built, framed, hull⟩ :=
    reference.box_framed
  refine ⟨placed, boxes, shapes, found, carried, boxed, unfolded, built, ?_, ?_, framed.unfolded,
    ?_, ?_⟩
  · have empty : boxes.reduceOption = [] ↔ ∀ box ∈ boxes, box = none :=
      List.filterMap_eq_nil_iff
    refine ⟨fun missing => .inr (empty.mp (hull.eq_none_iff.mp missing)), ?_⟩
    rintro (undefined | missing)
    · rw [Geometry.box, undefined] at built
      cases built
      rfl
    · exact hull.eq_none_iff.mpr (empty.mpr missing)
  · rintro box rfl
    exact hull.2
  · rintro box rfl
    exact framed.hull.2
  · intro definition other defined reordered
    obtain ⟨base, same⟩ := reordered.contentBox
    rw [← built, Geometry.box, placement_of_base base]
    obtain ⟨name, insertion, scale, rotation, attributes, _⟩ := reference
    cases defined
    exact same _ (similar_placement _)

theorem BlockReference.box_least_of_reversed_block :
    let pin (items : List (Geometry ℝ)) : BlockDefinition ℝ := ⟨"PIN", ⟨1, 0⟩, items, [], 0⟩
    let socket (items : List (Geometry ℝ)) : BlockDefinition ℝ := ⟨"SOCKET", ⟨0, 0⟩, items, [], 1⟩
    let marks : List (Geometry ℝ) := [.line ⟨0, 0⟩ ⟨3, 4⟩, .circle ⟨2, 2⟩ 1]
    let items (marks : List (Geometry ℝ)) : List (Geometry ℝ) :=
      [.polyline [] true, .blockReference ⟨"PIN", ⟨8, 9⟩, 2, 0, [], some (pin marks)⟩,
        .circle ⟨5, 6⟩ (-1)]
    let reference (items : List (Geometry ℝ)) : BlockReference ℝ :=
      ⟨"SOCKET", ⟨10, 20⟩, 3, 0, [], some (socket items)⟩
    (socket (items marks)).Reordered (socket (items marks.reverse).reverse) ∧
      (Geometry.blockReference (reference (items marks))).box = .ok (some ⟨⟨22, 35⟩, ⟨46, 71⟩⟩) ∧
      (Geometry.blockReference (reference (items marks.reverse).reverse)).box =
        .ok (some ⟨⟨22, 35⟩, ⟨46, 71⟩⟩) := by
  intro pin socket marks items reference
  have turned : (pin marks).Reordered (pin marks.reverse) := .own marks.reverse_perm.symm
  have reordered : (socket (items marks)).Reordered (socket (items marks.reverse).reverse) :=
    .trans (.inner [.polyline [] true] [.circle ⟨5, 6⟩ (-1)] ⟨"PIN", ⟨8, 9⟩, 2, 0, [], none⟩ turned)
      (.own (List.reverse_perm _).symm)
  have built : (Geometry.blockReference (reference (items marks))).box =
      .ok (some ⟨⟨22, 35⟩, ⟨46, 71⟩⟩) := by
    have size (x : ℝ) : Scalar.abs x = |x| := rfl
    have place (p : Point ℝ) :
        (reference (items marks)).placement.place p = .ok ⟨3 * p.x + 10, 3 * p.y + 20⟩ := by
      rw [place_exact]
      simp [reference, socket, base, cos_zero, sin_zero]
    have turn : (reference (items marks)).placement.turn = 0 := rfl
    have grown (inner : BlockReference ℝ) : inner.placement.factor = inner.scale := rfl
    have factor : (reference (items marks)).placement.factor = 3 := rfl
    rw [Geometry.box]
    generalize (reference (items marks)).placement = t at place turn factor
    simp only [reference, socket, items, pin, marks, contentBox, itemsBox, Geometry.boxUnder,
      boxUnder, transform, place_exact, base, List.mapM_nil, Bind.bind, Except.bind, pure,
      Except.pure, place, turn, factor, grown, add_zero, cos_zero, sin_zero, size]
    norm_num [Box.join?, Box.ofPoints?, Box.ofCircle, Box.union, Box.around, Scalar.least,
      Scalar.greatest, Scalar.less_iff, size]
  obtain ⟨placed, boxes, shapes, found, -, -, -, same, -, -, -, -, again⟩ :=
    (reference (items marks)).box_least
  cases built.symm.trans same
  exact ⟨reordered, built, again _ _ rfl reordered⟩

end DrawingPlan
