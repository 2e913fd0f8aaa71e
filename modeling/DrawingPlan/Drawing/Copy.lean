import DrawingPlan.Drawing.Basic

set_option autoImplicit false

namespace DrawingPlan

variable {α : Type}

/-- One of none of the definitions that are `known`. -/
def Serial.copy (known : List Serial) (serial : Serial) : Serial :=
  { serial with copies := serial.copies + (known.map Serial.copies).max?.getD 0 + 1 }

section Renumber

variable (known : List Serial) (renew : Serial → Serial)

mutual

-- A known definition stays as it is, and so does all that is in it.
def Geometry.renumber : Geometry α → Geometry α
  | .line start finish => .line start finish
  | .polyline vertices closed => .polyline vertices closed
  | .circle center radius => .circle center radius
  | .blockReference reference => .blockReference reference.renumber

def BlockReference.renumber : BlockReference α → BlockReference α
  | ⟨name, insertion, scale, rotation, attributes, definition⟩ =>
    ⟨name, insertion, scale, rotation, attributes, renumberDefinition definition⟩

def renumberDefinition : Option (BlockDefinition α) → Option (BlockDefinition α)
  | none => none
  | some ⟨name, base, items, attributes, serial⟩ =>
    if serial ∈ known then some ⟨name, base, items, attributes, serial⟩
    else some ⟨name, base, renumberItems items, attributes, renew serial⟩

def renumberItems : List (Geometry α) → List (Geometry α)
  | [] => []
  | item :: rest => item.renumber :: renumberItems rest

end

def Entity.renumber (entity : Entity α) : Entity α :=
  { entity with geometry := entity.geometry.map (Geometry.renumber known renew) }

end Renumber

/--
The entities as a copy that goes to any depth has them. A definition of the block table is shared
with its copy; any other is copied once, for all the references that share it.
-/
def Drawing.copies (drawing : Drawing α) : List (Entity α) :=
  let known := drawing.blocks.serials
  drawing.entities.map (Entity.renumber known (Serial.copy known))

end DrawingPlan
