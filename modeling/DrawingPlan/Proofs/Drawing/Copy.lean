import DrawingPlan.Drawing.Copy

set_option autoImplicit false

namespace DrawingPlan

variable {α : Type}

namespace Serial

theorem copy_not_mem (known : List Serial) (serial : Serial) : serial.copy known ∉ known := by
  intro member
  have bound : (serial.copy known).copies ≤ (known.map copies).max?.getD 0 :=
    List.le_max?_getD_of_mem (List.mem_map_of_mem member)
  simp only [copy] at bound
  omega

end Serial

section Renumber

variable {known : List Serial} {first second : Serial → Serial}

mutual

theorem Geometry.renumber_renumber (fresh : ∀ serial, first serial ∉ known) :
    ∀ geometry : Geometry α, (geometry.renumber known first).renumber known second =
      geometry.renumber known (second ∘ first)
  | .line .. | .polyline .. | .circle .. => rfl
  | .blockReference reference => by
    simp only [Geometry.renumber, BlockReference.renumber_renumber fresh reference]

theorem BlockReference.renumber_renumber (fresh : ∀ serial, first serial ∉ known) :
    ∀ reference : BlockReference α, (reference.renumber known first).renumber known second =
      reference.renumber known (second ∘ first)
  | ⟨_, _, _, _, _, definition⟩ => by
    simp only [BlockReference.renumber, renumberDefinition_twice fresh definition]

theorem renumberDefinition_twice (fresh : ∀ serial, first serial ∉ known) :
    ∀ definition : Option (BlockDefinition α),
      renumberDefinition known second (renumberDefinition known first definition) =
        renumberDefinition known (second ∘ first) definition
  | none => rfl
  | some ⟨_, _, items, _, serial⟩ => by
    by_cases held : serial ∈ known
    · simp only [renumberDefinition, held, if_true]
    · simp only [renumberDefinition, held, if_false, fresh serial, Function.comp_apply,
        renumberItems_twice fresh items]

theorem renumberItems_twice (fresh : ∀ serial, first serial ∉ known) :
    ∀ items : List (Geometry α),
      renumberItems known second (renumberItems known first items) =
        renumberItems known (second ∘ first) items
  | [] => rfl
  | item :: rest => by
    simp only [renumberItems, item.renumber_renumber fresh, renumberItems_twice fresh rest]

end

theorem Entity.renumber_renumber (fresh : ∀ serial, first serial ∉ known) (entity : Entity α) :
    (entity.renumber known first).renumber known second =
      entity.renumber known (second ∘ first) := by
  cases shape : entity.geometry with
  | none => simp only [Entity.renumber, shape, Option.map_none]
  | some geometry =>
    simp only [Entity.renumber, shape, Option.map_some, geometry.renumber_renumber fresh]

end Renumber

def Entity.reference? (entity : Entity α) : Option (BlockReference α) :=
  match entity.geometry with
  | some (.blockReference reference) => some reference
  | _ => none

def Entity.definition? (entity : Entity α) : Option (BlockDefinition α) :=
  entity.reference?.bind BlockReference.definition

def Entity.Tabled (blocks : Blocks α) (entity : Entity α) : Prop :=
  ∀ definition, entity.definition? = some definition → definition.serial ∈ blocks.serials

theorem Entity.Tabled.renumber {blocks : Blocks α} {entity : Entity α}
    (tabled : entity.Tabled blocks) (renew : Serial → Serial) :
    entity.renumber blocks.serials renew = entity := by
  obtain ⟨geometry, layer, color, linetype, scale, deleted⟩ := entity
  rcases geometry with _ | geometry
  · rfl
  · cases geometry with
    | line | polyline | circle => rfl
    | blockReference reference =>
      obtain ⟨name, insertion, factor, rotation, attributes, definition⟩ := reference
      rcases definition with _ | definition
      · rfl
      · have inside : definition.serial ∈ blocks.serials := tabled definition rfl
        obtain ⟨own, base, items, fields, serial⟩ := definition
        simp only [Entity.renumber, Option.map_some, Geometry.renumber, BlockReference.renumber,
          renumberDefinition, inside, if_true]

/-- The entities with one serial in the place of all that the table does not have. -/
def Blocks.appearance (blocks : Blocks α) (entities : List (Entity α)) : List (Entity α) :=
  entities.map (Entity.renumber blocks.serials fun _ => Serial.copy blocks.serials 0)

namespace Drawing

theorem length_copies (drawing : Drawing α) : drawing.copies.length = drawing.entities.length :=
  List.length_map _

theorem appearance_copies (drawing : Drawing α) :
    drawing.blocks.appearance drawing.copies = drawing.blocks.appearance drawing.entities := by
  simp only [Blocks.appearance, copies, List.map_map]
  apply List.map_congr_left
  intro entity _
  exact entity.renumber_renumber (Serial.copy_not_mem _)

theorem copies_of_all_tabled {drawing : Drawing α}
    (tabled : ∀ entity ∈ drawing.entities, entity.Tabled drawing.blocks) :
    drawing.copies = drawing.entities := by
  rw [copies]
  exact (List.map_congr_left fun entity member => (tabled entity member).renumber _).trans
    (List.map_id _)

theorem copies_of_tabled {drawing : Drawing α} {place : Nat} {entity : Entity α}
    (found : drawing.entities[place]? = some entity) (tabled : entity.Tabled drawing.blocks) :
    drawing.copies[place]? = some entity := by
  simp only [copies, List.getElem?_map, found, Option.map_some, tabled.renumber]

/-- All is the same but the identities of definitions that the block table does not have. -/
structure Alike (before after : Drawing α) : Prop where
  frame : after = { before with entities := after.entities }
  entities : before.blocks.appearance after.entities = before.blocks.appearance before.entities
  same : ∀ (place : Nat) entity, before.entities[place]? = some entity →
    entity.Tabled before.blocks → after.entities[place]? = some entity
  whole : (∀ entity ∈ before.entities, entity.Tabled before.blocks) → after = before

theorem Alike.refl (drawing : Drawing α) : drawing.Alike drawing :=
  ⟨rfl, rfl, fun _ _ found _ => found, fun _ => rfl⟩

theorem Alike.layers {before after : Drawing α} (alike : before.Alike after) :
    after.layers = before.layers :=
  (congrArg Drawing.layers alike.frame).trans rfl

theorem Alike.layersOfEntities {before after : Drawing α} (alike : before.Alike after) :
    after.entities.map Entity.layer = before.entities.map Entity.layer := by
  have layers (entities : List (Entity α)) :
      (before.blocks.appearance entities).map Entity.layer = entities.map Entity.layer := by
    simp only [Blocks.appearance, List.map_map]
    rfl
  rw [← layers after.entities, alike.entities, layers]

theorem alike_copies (drawing : Drawing α) :
    drawing.Alike { drawing with entities := drawing.copies } where
  frame := rfl
  entities := drawing.appearance_copies
  same _ _ found tabled := copies_of_tabled found tabled
  whole tabled := by rw [copies_of_all_tabled tabled]

end Drawing

end DrawingPlan
