import DrawingPlan.Entries
import DrawingPlan.Text.Casing

set_option autoImplicit false

namespace DrawingPlan

structure NameTable (β : Type) where
  entries : List (Text × β) := []
deriving DecidableEq, Repr

namespace NameTable

variable {β : Type}

def values (table : NameTable β) : List β :=
  table.entries.map (·.2)

def get? (table : NameTable β) (name : Text) : Option β :=
  table.entries.lookup name.lower

def has (table : NameTable β) (name : Text) : Bool :=
  (table.get? name).isSome

def put (table : NameTable β) (name : Text) (value : β) : NameTable β :=
  ⟨putEntry name.lower value table.entries⟩

theorem get?_put (table : NameTable β) (name : Text) (value : β) :
    (table.put name value).get? name = some value :=
  lookup_putEntry _ _ _

theorem get?_put_of_ne (table : NameTable β) {name other : Text}
    (different : other.lower ≠ name.lower) (value : β) :
    (table.put name value).get? other = table.get? other :=
  lookup_putEntry_of_ne different _ _

theorem mem_values_put {table : NameTable β} {name : Text} {value held : β}
    (member : held ∈ (table.put name value).values) : held = value ∨ held ∈ table.values := by
  obtain ⟨entry, inside, rfl⟩ := List.mem_map.mp member
  rcases mem_putEntry inside with rfl | old
  · exact .inl rfl
  · exact .inr (List.mem_map_of_mem old)

end NameTable

end DrawingPlan
