import DrawingPlan.Drawing.Transaction
import DrawingPlan.Proofs.Drawing.Copy
import DrawingPlan.Proofs.Entries

set_option autoImplicit false

namespace DrawingPlan

variable {α : Type}

-- What stands in several places, such as an entity appended twice, is edited in each of them.
inductive Change (α : Type) where
  | append (entity : Entity α)
  | erase (place : Nat)
  | edit (place : Nat) (how : Entity α → Entity α)
  | addLayer (layer : Layer)
  | ensureLayer (name : Text)
  -- A layer is edited by its number: it may have lost its name to another layer.
  | editRecord (number : Nat) (how : Layer → Layer)
  | addBlock (definition : BlockDefinition α)

def Change.apply : Change α → Drawing α → Drawing α
  | .append entity, drawing => drawing.append entity
  | .erase place, drawing => drawing.erase place
  | .edit place how, drawing => drawing.editEntity place how
  | .addLayer layer, drawing => drawing.addLayer layer
  | .ensureLayer name, drawing => drawing.ensureLayer name
  | .editRecord number how, drawing => drawing.editRecord number how
  | .addBlock definition, drawing => drawing.addBlock definition

namespace Drawing

def changed (drawing : Drawing α) (changes : List (Change α)) : Drawing α :=
  changes.foldl (fun reached change => change.apply reached) drawing

@[simp] theorem changed_nil (drawing : Drawing α) : drawing.changed [] = drawing := rfl

@[simp] theorem changed_cons (drawing : Drawing α) (change : Change α) (rest : List (Change α)) :
    drawing.changed (change :: rest) = (change.apply drawing).changed rest := rfl

theorem changed_append (drawing : Drawing α) (first second : List (Change α)) :
    drawing.changed (first ++ second) = (drawing.changed first).changed second :=
  List.foldl_append

theorem related_foldl {related : Drawing α → Drawing α → Prop}
    (refl : ∀ drawing, related drawing drawing)
    (trans : ∀ {first second third}, related first second → related second third →
      related first third)
    {edit : Drawing α → Nat → Drawing α} (single : ∀ drawing place, related drawing
      (edit drawing place)) (places : List Nat) (drawing : Drawing α) :
    related drawing (places.foldl edit drawing) := by
  induction places generalizing drawing with
  | nil => exact refl drawing
  | cons place rest ih => exact trans (single drawing place) (ih (edit drawing place))

def Reaches (allowed : Change α → Prop) (before after : Drawing α) : Prop :=
  ∃ changes, (∀ change ∈ changes, allowed change) ∧ after = before.changed changes

section Reaches

variable {allowed : Change α → Prop}

theorem Reaches.refl (drawing : Drawing α) : drawing.Reaches allowed drawing :=
  ⟨[], by simp, rfl⟩

theorem Reaches.trans {first second third : Drawing α} (early : first.Reaches allowed second)
    (late : second.Reaches allowed third) : first.Reaches allowed third := by
  obtain ⟨firstChanges, firstAllowed, rfl⟩ := early
  obtain ⟨laterChanges, laterAllowed, rfl⟩ := late
  refine ⟨firstChanges ++ laterChanges, ?_, (changed_append _ _ _).symm⟩
  intro change member
  rcases List.mem_append.mp member with isFirst | isLater
  · exact firstAllowed change isFirst
  · exact laterAllowed change isLater

end Reaches

structure Grown (before after : Drawing α) : Prop where
  checkpoint : after.checkpoint = before.checkpoint
  entities : before.entities.length ≤ after.entities.length
  records : before.layers.records.length ≤ after.layers.records.length

theorem Grown.refl (drawing : Drawing α) : drawing.Grown drawing :=
  ⟨rfl, Nat.le_refl _, Nat.le_refl _⟩

theorem Grown.trans {first second third : Drawing α} (early : first.Grown second)
    (late : second.Grown third) : first.Grown third :=
  ⟨late.checkpoint.trans early.checkpoint, Nat.le_trans early.entities late.entities,
    Nat.le_trans early.records late.records⟩

theorem ensure_records (layers : Layers) (name : Text) :
    layers.records.length ≤ (layers.ensure name).records.length := by
  by_cases known : layers.has name = true <;> simp [Layers.ensure, Layers.add, known]

theorem grown_apply (change : Change α) (drawing : Drawing α) :
    drawing.Grown (change.apply drawing) := by
  cases change with
  | append entity => constructor <;> simp [Change.apply, append]
  | erase place => constructor <;> simp [Change.apply, erase, editEntity]
  | edit place how => constructor <;> simp [Change.apply, editEntity]
  | addLayer layer => constructor <;> simp [Change.apply, addLayer, Layers.add]
  | ensureLayer name => exact ⟨rfl, Nat.le_refl _, ensure_records drawing.layers name⟩
  | editRecord number how => constructor <;> simp [Change.apply, editRecord, Layers.editRecord]
  | addBlock definition => constructor <;> simp [Change.apply, addBlock]

theorem grown_changed (changes : List (Change α)) (drawing : Drawing α) :
    drawing.Grown (drawing.changed changes) := by
  induction changes generalizing drawing with
  | nil => exact Grown.refl drawing
  | cons change rest ih => exact (grown_apply change drawing).trans (ih (change.apply drawing))

theorem restoreEntities_of_le {saved entities : List (Entity α)}
    (grown : saved.length ≤ entities.length) : restoreEntities saved entities = saved := by
  have paired : (entities.take saved.length).length = saved.length := by
    rw [List.length_take]
    omega
  -- What came later is cut off, and nothing is left of the entities themselves.
  apply List.ext_getElem
  · simp [restoreEntities, paired]
  · intro place _ inside
    simp [restoreEntities]

/-- The drawing in which a transaction was begun, as it is while the transaction is active. -/
def opened (drawing : Drawing α) : Drawing α :=
  { drawing with checkpoint := some drawing.currentCheckpoint }

theorem begin?_eq_ok_iff {drawing started : Drawing α} :
    drawing.begin? = .ok started ↔ drawing.inTransaction = false ∧ started = drawing.opened := by
  cases active : drawing.checkpoint with
  | none => simp [begin?, inTransaction, active, opened, eq_comm]
  | some checkpoint => simp [begin?, inTransaction, active]

/-- Only the entities and the layer table go back. -/
def backTo (reached begun : Drawing α) : Drawing α :=
  { reached with
    entities := begun.copies
    layers := reached.layers.restore begun.layers.table begun.layers.records.length
    checkpoint := none }

theorem rollback?_of_grown {begun reached : Drawing α} (grown : begun.opened.Grown reached) :
    reached.rollback? = .ok (reached.backTo begun) := by
  have held : reached.checkpoint = some begun.currentCheckpoint := grown.checkpoint
  have entities : restoreEntities begun.copies reached.entities = begun.copies :=
    restoreEntities_of_le (begun.length_copies ▸ grown.entities)
  simp only [rollback?, held, restore, currentCheckpoint, entities, backTo]

end Drawing

def Layers.Listed (layers : Layers) : Prop :=
  ∀ number ∈ layers.table.values, number < layers.records.length

namespace Layers

theorem Listed.add {layers : Layers} (listed : layers.Listed) (layer : Layer) :
    (layers.add layer).Listed := by
  intro number member
  have longer : (layers.add layer).records.length = layers.records.length + 1 := by
    simp [Layers.add]
  rcases NameTable.mem_values_put member with rfl | old
  · omega
  · have bound := listed number old
    omega

theorem Listed.ensure {layers : Layers} (listed : layers.Listed) (name : Text) :
    (layers.ensure name).Listed := by
  by_cases known : layers.has name = true
  · simpa [Layers.ensure, known] using listed
  · simpa [Layers.ensure, known] using listed.add { name }

theorem initial_listed : Layers.initial.Listed :=
  Listed.add (fun _ member => by cases member) { name := defaultLayer }

theorem Listed.restore {before after : Layers} (listed : before.Listed)
    (grown : before.records.length ≤ after.records.length) :
    (after.restore before.table before.records.length).Listed := by
  intro number member
  have bound := listed number member
  simp only [Layers.restore, List.length_take]
  omega

end Layers

namespace Drawing

theorem listed_apply {drawing : Drawing α} (listed : drawing.layers.Listed) (change : Change α) :
    (change.apply drawing).layers.Listed := by
  cases change with
  | append entity => exact listed
  | erase place => exact listed
  | edit place how => exact listed
  | addLayer layer => exact listed.add layer
  | ensureLayer name => exact listed.ensure name
  | editRecord number how =>
    -- An edit puts another layer in the place of a record, and the table is as it was.
    intro other member
    have bound := listed other member
    simpa [Change.apply, editRecord, Layers.editRecord] using bound
  | addBlock definition => exact listed

end Drawing

def Blocks.Distinct (blocks : Blocks α) : Prop :=
  (blocks.table.entries.map (·.1)).Nodup

theorem Drawing.distinct_apply {drawing : Drawing α} (distinct : drawing.blocks.Distinct)
    (change : Change α) : (change.apply drawing).blocks.Distinct := by
  cases change with
  | addBlock definition => exact nodup_keys_putEntry _ _ distinct
  | _ => exact distinct

end DrawingPlan
