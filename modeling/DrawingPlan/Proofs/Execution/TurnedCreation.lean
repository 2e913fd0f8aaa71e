import DrawingPlan.Proofs.Drawing.Composition
import DrawingPlan.Execution.Run

set_option autoImplicit false

namespace DrawingPlan

open ExactScalar (cos_add sin_add cos_zero sin_zero)

structure Reply.Adds {α : Type} (reply : Reply α) (before : Drawing α) (entity : Entity α) :
    Prop where
  drawing : reply.drawing = (before.ensureLayer entity.layer).append entity
  answer : ∃ answer, reply.answer = .ok answer ∧ Run.accepted answer = true ∧
    answer.field? "created" = some (.integer 1)

theorem Reply.adds_shape {α : Type} (drawing : Drawing α) (geometry : Geometry α) (layer : Text) :
    (Reply.shape drawing geometry layer).Adds drawing { geometry := some geometry, layer } :=
  ⟨rfl, _, rfl, rfl, rfl⟩

/-- What a reply adds is what transforms, one after the other, make of what another one adds. -/
def Reply.AddsTransformed {α : Type} [Scalar α] (made plain : Reply α) (before : Drawing α)
    (transforms : List (Transform α)) : Prop :=
  ∃ entity last, plain.Adds before entity ∧
    transforms.foldlM (fun reached t => reached.transform t) entity = .ok last ∧
    made.Adds before last

variable {α : Type} [ExactScalar α]

namespace Outline

theorem rectangle_turned {base : Point α} {rotation : α} {image : Point α → Point α}
    (placed : (Transform.turning base rotation).place = fun p => .ok (image p))
    (width height : α) :
    ∃ corners, rectangle base width height 0 = .ok corners ∧
      rectangle base width height rotation = .ok (corners.map image) := by
  have level : Scalar.equal (0 : α) 0 = true := decide_eq_true rfl
  refine ⟨_, if_pos level, ?_⟩
  -- Corners that need no turn are not turned at all, which has to come to the same.
  by_cases still : rotation = 0
  · subst still
    have same : image = fun p => p := by
      funext p
      have unmoved := congrFun placed p
      rw [Transform.turning_zero] at unmoved
      exact (Except.ok.inj unmoved).symm
    rw [same, List.map_id']
    exact if_pos level
  · have turned : Scalar.equal rotation 0 = false := decide_eq_false still
    rw [rectangle, turned]
    change List.mapM (Transform.turning base rotation).place _ = _
    rw [placed]
    exact List.mapM_pure

theorem polygonVertex_turned (center : Point α) (radius : α) (sides : Nat) (rotation : α)
    (i : Nat) :
    ∃ vertex, polygonVertex center radius sides 0 i = .ok vertex ∧
      polygonVertex center radius sides rotation i =
        (Transform.turning center rotation).place vertex := by
  refine ⟨_, rfl, ?_⟩
  change Except.ok _ = Except.ok _
  simp only [cos_add, sin_add, cos_zero, sin_zero]
  congr 2 <;> ring

theorem polygon_turned {center : Point α} {rotation : α} {image : Point α → Point α}
    (placed : (Transform.turning center rotation).place = fun p => .ok (image p))
    (radius : α) (sides : Nat) :
    ∃ vertices, polygon center radius sides 0 = .ok vertices ∧
      polygon center radius sides rotation = .ok (vertices.map image) := by
  choose vertex level turned using polygonVertex_turned center radius sides rotation
  have plain : polygonVertex center radius sides 0 = fun i => .ok (vertex i) := funext level
  have carried : polygonVertex center radius sides rotation = fun i => .ok (image (vertex i)) := by
    funext i
    rw [turned, placed]
  refine ⟨(List.range sides).map vertex, ?_, ?_⟩
  · rw [polygon, plain]
    exact List.mapM_pure
  · rw [polygon, carried, List.map_map]
    exact List.mapM_pure

end Outline

theorem Reply.outline_turned (drawing : Drawing α) {center : Point α} {rotation : α}
    {plain turned : Except Fault (List (Point α))}
    (carried : ∀ image, (Transform.turning center rotation).place = (fun p => .ok (image p)) →
      ∃ vertices, plain = .ok vertices ∧ turned = .ok (vertices.map image)) (layer : Text) :
    (Reply.outline drawing turned layer).AddsTransformed (Reply.outline drawing plain layer)
      drawing [.turning center rotation] := by
  obtain ⟨image, placed⟩ := (Transform.Elementary.turning center rotation).similar.place_ok
  obtain ⟨vertices, rfl, rfl⟩ := carried image placed
  refine ⟨_, _, adds_shape drawing (.polyline vertices true) layer, ?_, adds_shape ..⟩
  rw [List.foldlM_cons, Entity.transform_eq placed rfl]
  rfl

namespace BlockReference

theorem bind_eq {reference : BlockReference α} {image : Point α → Point α}
    (placed : reference.placement.place = fun p => .ok (image p))
    (definition : BlockDefinition α) (values : List (Text × Text)) :
    reference.bind definition values = .ok ((filled definition values).map fun entry =>
      { tag := entry.1.tag, value := entry.2, position := image entry.1.position }) := by
  rw [bind, placed]
  exact List.mapM_pure

theorem bound_of_transform {t : Transform α} (similar : t.Similar)
    {plain carried : BlockReference α} (transformed : plain.transform t = .ok carried)
    (definition : BlockDefinition α) (values : List (Text × Text)) :
    ∃ attributes images, plain.bind definition values = .ok attributes ∧
      carried.bind definition values = .ok images ∧
      ({ plain with attributes } : BlockReference α).transform t =
        .ok { carried with attributes := images } := by
  obtain ⟨image, later, placed, moved, both⟩ :=
    (similar_placement plain).place_andThen similar
  rw [← placement_of_transform similar transformed] at both
  refine ⟨_, _, bind_eq placed definition values, bind_eq both definition values, ?_⟩
  rw [transform_eq moved] at transformed ⊢
  cases transformed
  simp only [imageBy, List.map_map]
  rfl

def bare (definition : BlockDefinition α) (position : Point α) (scale rotation : α) :
    BlockReference α :=
  ⟨definition.name, position, scale, rotation, [], some definition⟩

theorem bare_turned (definition : BlockDefinition α) (position : Point α) (rotation : α) :
    (bare definition position 1 0).transform (.turning position rotation) =
      .ok (bare definition position 1 rotation) := by
  have fixed : (Transform.turning position rotation).place position = .ok position := by
    simp only [Transform.turning, Point.rotate_exact]
    congr 2 <;> ring
  have scale : (1 : α) * 1 = 1 := mul_one 1
  have angle : 0 + rotation = rotation := zero_add rotation
  rw [transform, bare, fixed]
  simp only [Transform.turning, scale, angle]
  rfl

theorem bare_scaled (definition : BlockDefinition α) (position : Point α) (rotation factor : α) :
    (bare definition position 1 rotation).transform (.scaling position factor) =
      .ok (bare definition position factor rotation) := by
  have fixed : (Transform.scaling position factor).place position = .ok position := by
    simp only [Transform.scaling, Point.scale]
    congr 2 <;> ring
  have scale : 1 * factor = factor := one_mul factor
  have angle : rotation + 0 = rotation := add_zero rotation
  rw [transform, bare, fixed]
  simp only [Transform.scaling, scale, angle]
  rfl

end BlockReference

namespace InsertBlock

open BlockReference (bare bare_turned bare_scaled bound_of_transform)

theorem adds_perform (action : InsertBlock α) {drawing : Drawing α}
    {definition : BlockDefinition α} (known : drawing.blocks.get? action.name = some definition)
    {attributes : List (Attribute α)}
    (bound : (bare definition action.position action.scale action.rotation).bind definition
      action.attributes = .ok attributes) :
    (action.perform drawing).Adds drawing
      { geometry := some (.blockReference { bare definition action.position action.scale
          action.rotation with attributes }), layer := action.layer } := by
  rw [bare] at bound
  simp only [perform, known, bound]
  exact ⟨rfl, _, rfl, rfl, rfl⟩

theorem perform_turned (action : InsertBlock α) {drawing : Drawing α}
    {definition : BlockDefinition α} (known : drawing.blocks.get? action.name = some definition) :
    (action.perform drawing).AddsTransformed
      ({ action with rotation := 0, scale := 1 }.perform drawing) drawing
      [.turning action.position action.rotation, .scaling action.position action.scale] := by
  have turning := (Transform.Elementary.turning action.position action.rotation).similar
  have scaling := (Transform.Elementary.scaling action.position action.scale).similar
  obtain ⟨plain, turned, bound, boundTurned, first⟩ := bound_of_transform turning
    (bare_turned definition action.position action.rotation) definition action.attributes
  obtain ⟨same, scaled, again, boundScaled, second⟩ := bound_of_transform scaling
    (bare_scaled definition action.position action.rotation action.scale) definition
    action.attributes
  cases boundTurned.symm.trans again
  refine ⟨_, _, adds_perform { action with rotation := 0, scale := 1 } known bound, ?_,
    adds_perform action known boundScaled⟩
  simp only [List.foldlM_cons, Entity.transform, Geometry.transform, first, second, Bind.bind,
    Except.bind, pure, Except.pure]
  rfl

end InsertBlock

/--
What is created turned is what is created level and then turned about the point it is created at; a
reference is scaled afterwards, and its attributes come along.
-/
theorem Action.creates_turned (drawing : Drawing α) :
    (∀ action : DrawRectangle α, (action.perform drawing).AddsTransformed
        ({ action with rotation := 0 }.perform drawing) drawing
        [.turning action.base action.rotation]) ∧
      (∀ action : DrawPolygon α, (action.perform drawing).AddsTransformed
        ({ action with rotation := 0 }.perform drawing) drawing
        [.turning action.center action.rotation]) ∧
      ∀ action : InsertBlock α, (drawing.blocks.get? action.name).isSome →
        (action.perform drawing).AddsTransformed
          ({ action with rotation := 0, scale := 1 }.perform drawing) drawing
          [.turning action.position action.rotation, .scaling action.position action.scale] := by
  refine ⟨fun action => ?_, fun action => ?_, fun action known => ?_⟩
  · exact Reply.outline_turned drawing (fun image placed =>
      Outline.rectangle_turned placed action.width action.height) action.layer
  · exact Reply.outline_turned drawing (fun image placed =>
      Outline.polygon_turned placed action.radius action.sides) action.layer
  · obtain ⟨definition, held⟩ := Option.isSome_iff_exists.mp known
    exact action.perform_turned held

theorem Action.creates_turned_of_mirrored_socket :
    let name : AttributeDefinition ℝ := { tag := "NAME", position := ⟨2, 3⟩ }
    let fields : List (AttributeDefinition ℝ) :=
      [{ tag := "KIND", position := ⟨0, 0⟩, constant := true }, name,
        { tag := "NOTE", position := ⟨1, 1⟩ }]
    let socket : BlockDefinition ℝ := ⟨"Socket", ⟨1, 0⟩, [.circle ⟨1, 0⟩ 2], fields, 0⟩
    let drawing : Drawing ℝ := (Drawing.empty : Drawing ℝ).addBlock socket
    let action : InsertBlock ℝ :=
      ⟨"socket", ⟨10, 20⟩, -2, Real.pi / 2, "POWER", [("KIND", "x"), ("NAME", "P1")]⟩
    let made : Entity ℝ :=
      { geometry := some (.blockReference ⟨"Socket", ⟨10, 20⟩, -2, Real.pi / 2,
          [⟨"NAME", "P1", ⟨16, 18⟩⟩], some socket⟩), layer := "POWER" }
    (drawing.blocks.get? action.name).isSome ∧ (action.perform drawing).Adds drawing made ∧
      (action.perform drawing).AddsTransformed
        ({ action with rotation := 0, scale := 1 }.perform drawing) drawing
        [.turning ⟨10, 20⟩ (Real.pi / 2), .scaling ⟨10, 20⟩ (-2)] := by
  intro name fields socket drawing action made
  have spelling : Text.lower "socket" = Text.lower "Socket" := by decide +kernel
  have held : drawing.blocks.get? action.name = some socket := by
    rw [Blocks.get?, if_neg (by decide), NameTable.get?, spelling]
    exact NameTable.get?_put {} "Socket" socket
  have known : (drawing.blocks.get? action.name).isSome := by rw [held, Option.isSome_some]
  have bound : (BlockReference.bare socket action.position action.scale action.rotation).bind socket
      action.attributes = .ok [⟨"NAME", "P1", ⟨16, 18⟩⟩] := by
    have one : BlockReference.filled socket action.attributes =
        [(name, ("P1" : Text))] := rfl
    have place := (BlockReference.bare socket action.position action.scale
      action.rotation).place_exact
    have cosine : ExactScalar.cos (Real.pi / 2) = 0 := Real.cos_pi_div_two
    have sine : ExactScalar.sin (Real.pi / 2) = 1 := Real.sin_pi_div_two
    rw [BlockReference.bind_eq (funext place), one]
    simp only [List.map_cons, List.map_nil, BlockReference.bare, BlockReference.base, socket,
      action, name, cosine, sine]
    change Except.ok _ = Except.ok _
    norm_num
  exact ⟨known, InsertBlock.adds_perform action held bound,
    (creates_turned drawing).2.2 action known⟩

end DrawingPlan
