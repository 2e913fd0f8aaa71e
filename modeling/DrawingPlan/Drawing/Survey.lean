import DrawingPlan.Drawing.Basic

set_option autoImplicit false

namespace DrawingPlan.Drawing

variable {α : Type}

def liveKinds (drawing : Drawing α) : Except Fault (List GeometryKind) :=
  drawing.liveEntities.mapM Entity.kind

def kindCounts (drawing : Drawing α) : List (String × Nat) :=
  let kinds := drawing.liveEntities.filterMap Entity.kind?
  let counted := [GeometryKind.blockReference, .circle, .line, .polyline].map fun kind =>
    (kind.name, kinds.count kind)
  counted.filter fun entry => entry.2 ≠ 0

def description (drawing : Drawing Float) : Text :=
  let kinds : List Text := drawing.kindCounts.map fun entry => entry.1 ++ "=" ++ toString entry.2
  let blocks := drawing.blocks.toList.map (·.name)
  let always : List Text :=
    [ "Insunits: " ++ toString drawing.insertionUnits,
      "Ltscale: " ++ Number.briefText drawing.linetypeScale,
      "Cecolor (index): " ++ toString drawing.currentColor,
      "Layers: " ++ Text.intercalate ", " (drawing.layers.toList.map (·.name)),
      "Entities: " ++ toString drawing.liveEntities.length ]
  let ofKinds : List Text :=
    if kinds.isEmpty then [] else ["By type: " ++ Text.intercalate ", " kinds]
  let ofBlocks : List Text :=
    if blocks.isEmpty then [] else ["Blocks: " ++ Text.intercalate ", " blocks]
  Text.intercalate "\n" (always ++ ofKinds ++ ofBlocks) ++ "\n"

def layerFindings (name : Text) : Option Layer → List Text
  | none => ["Missing layer: " ++ name]
  | some layer =>
    (if layer.off then ["Layer " ++ name ++ " is OFF (recommended: turn it ON)."] else []) ++
    (if layer.frozen then ["Layer " ++ name ++ " is FROZEN (recommended: thaw it)."] else []) ++
    (if layer.plottable then []
      else ["Layer " ++ name ++ " is not plottable (IsPlottable = false)."])

def auditLayers (drawing : Drawing α) (required : List Text) : List Text :=
  required.flatMap fun name => layerFindings name (drawing.layers.get? name)

end DrawingPlan.Drawing
