import DrawingPlan.Drawing.Entity
import DrawingPlan.Drawing.Layers
import DrawingPlan.Journal
import DrawingPlan.Text.Quoted

set_option autoImplicit false

namespace DrawingPlan

structure Blocks (α : Type) where
  table : NameTable (BlockDefinition α) := {}
  added : Nat := 0

namespace Blocks

variable {α : Type}

def toList (blocks : Blocks α) : List (BlockDefinition α) :=
  blocks.table.values

def get? (blocks : Blocks α) (name : Text) : Option (BlockDefinition α) :=
  if name = "" then none else blocks.table.get? name

def serials (blocks : Blocks α) : List Serial :=
  blocks.toList.map (·.serial)

def add (blocks : Blocks α) (definition : BlockDefinition α) : Blocks α where
  table := blocks.table.put definition.name
    { definition with serial := { number := blocks.added } }
  added := blocks.added + 1

end Blocks

structure Checkpoint (α : Type) where
  entities : List (Entity α)
  layerTable : NameTable Nat
  layerRecords : Nat

-- Entities hold their geometry by value: no two of them share a piece of it, and none shares one
-- with a block definition.
structure Drawing (α : Type) where
  name : String := "*Model_Space"
  insertionUnits : Int := 4
  linetypeScale : α
  currentColor : Int := 256
  entities : List (Entity α) := []
  blocks : Blocks α := {}
  layers : Layers := .initial
  checkpoint : Option (Checkpoint α) := none

namespace Drawing

variable {α : Type}

def empty [Scalar α] : Drawing α where
  linetypeScale := 1

def append (drawing : Drawing α) (entity : Entity α) : Drawing α :=
  { drawing with entities := drawing.entities ++ [entity] }

def editEntity (drawing : Drawing α) (index : Nat) (change : Entity α → Entity α) : Drawing α :=
  { drawing with entities := drawing.entities.modify index change }

def erase (drawing : Drawing α) (index : Nat) : Drawing α :=
  drawing.editEntity index fun entity => { entity with deleted := true }

def addBlock (drawing : Drawing α) (definition : BlockDefinition α) : Drawing α :=
  { drawing with blocks := drawing.blocks.add definition }

def holds (drawing : Drawing α) (reference : BlockReference α) : Bool :=
  match reference.definition, drawing.blocks.get? reference.name with
  | some mine, some held => mine.serial = held.serial
  | _, _ => false

def addLayer (drawing : Drawing α) (layer : Layer) : Drawing α :=
  { drawing with layers := drawing.layers.add layer }

def editRecord (drawing : Drawing α) (number : Nat) (change : Layer → Layer) : Drawing α :=
  { drawing with layers := drawing.layers.editRecord number change }

def ensureLayer (drawing : Drawing α) (name : Text) : Drawing α :=
  { drawing with layers := drawing.layers.ensure name }

def layerNotes (drawing : Drawing α) (name : Text) : List Note :=
  if drawing.layers.has name then []
  else [⟨.drawing, .debug, "creating layer " ++ name.quoted⟩]

def liveEntities (drawing : Drawing α) : List (Entity α) :=
  drawing.entities.filter fun entity => !entity.deleted

def liveIndexes (drawing : Drawing α) : List Nat :=
  (drawing.entities.zipIdx.filter fun entry => !entry.1.deleted).map (·.2)

/--
Visits the entities that are live when the walk starts, in drawing order. What the visitor does to
the drawing changes none of the visits that follow.
-/
def forEachLive {m : Type → Type} [Monad m] (drawing : Drawing α) (visit : Nat → m PUnit) :
    m PUnit :=
  drawing.liveIndexes.forM visit

end Drawing

end DrawingPlan
