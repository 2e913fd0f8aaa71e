import DrawingPlan.Drawing.NameTable

/-!
The layers of a drawing. A table leads from names to numbered records: a change of a layer changes
its record, so that it shows in every table that leads to the record.
-/

set_option autoImplicit false

namespace DrawingPlan

structure Layer where
  name : Text
  color : Int := 7
  linetype : Text := "Continuous"
  off : Bool := false
  frozen : Bool := false
  plottable : Bool := true
deriving DecidableEq, Repr

def defaultLayer : Text := "0"

structure Layers where
  records : List Layer := []
  table : NameTable Nat := {}
deriving DecidableEq, Repr

namespace Layers

def toList (layers : Layers) : List Layer :=
  layers.table.values.filterMap (layers.records[·]?)

def get? (layers : Layers) (name : Text) : Option Layer :=
  (layers.table.get? name).bind (layers.records[·]?)

def has (layers : Layers) (name : Text) : Bool :=
  layers.table.has name

def add (layers : Layers) (layer : Layer) : Layers where
  records := layers.records ++ [layer]
  table := layers.table.put layer.name layers.records.length

def ensure (layers : Layers) (name : Text) : Layers :=
  if layers.has name then layers else layers.add { name }

def editRecord (layers : Layers) (number : Nat) (change : Layer → Layer) : Layers :=
  { layers with records := layers.records.modify number change }

def restore (layers : Layers) (table : NameTable Nat) (count : Nat) : Layers where
  -- Records are only ever added at the end, and the table of before leads to the first `count`.
  records := layers.records.take count
  table := table

def initial : Layers :=
  Layers.add {} { name := defaultLayer }

end Layers

end DrawingPlan
