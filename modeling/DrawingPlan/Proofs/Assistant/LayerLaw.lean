import DrawingPlan.Assistant.Commands
import DrawingPlan.Proofs.Execution.LayerUse

set_option autoImplicit false

namespace DrawingPlan

variable {α : Type}

structure Drawing.LayerLaw (before after : Drawing α) : Prop where
  placed : after.OnLayers
  -- A layer that was given another name is still found under the key that it had.
  entries : ∀ entry ∈ after.layers.table.entries,
    entry ∈ before.layers.table.entries ∨ after.layers.Leads entry
  keyed : before.layers.Keyed → after.layers.Keyed
  distinct : before.layers.Keyed →
    (after.layers.toList.map fun layer => layer.name.lower).Nodup
  built : before.Built → after.layers.Keyed
  kept : before.layers.toList <+: after.layers.toList

theorem Drawing.OnLayers.of_alike {before after : Drawing α} (placed : before.OnLayers)
    (alike : before.Alike after) : after.OnLayers := by
  intro entity member
  have known : entity.layer ∈ before.entities.map Entity.layer :=
    alike.layersOfEntities ▸ List.mem_map_of_mem member
  obtain ⟨old, inside, layer⟩ := List.mem_map.mp known
  rw [alike.layers, ← layer]
  exact placed old inside

theorem Drawing.layerLaw_of_ensure {before after : Drawing α} (listed : before.layers.Listed)
    (placed : after.OnLayers) {names : List Text}
    (layers : after.layers = names.foldl Layers.ensure before.layers) : before.LayerLaw after := by
  have keyed (start : before.layers.Keyed) : after.layers.Keyed :=
    layers ▸ Layers.keyed_ensure_all start names
  refine ⟨placed, fun entry member => ?_, keyed, fun start => ?_, fun built => keyed built.keyed,
    ?_⟩
  · rw [layers] at member ⊢
    exact Layers.leads_of_mem_ensure_all member
  · exact (keyed start).keys ▸ (keyed start).distinct
  · rw [layers, Layers.toList_ensure_all listed]
    exact List.prefix_append _ _

namespace Command

theorem apply_cases [Json.Nesting] (text : Option Text) (drawing : Drawing Float) :
    (∃ plan, (Plan.decode text).plan = .ok plan ∧ (plan.run .standard drawing).2 = .ok () ∧
      (apply text drawing).1.drawing = (plan.run .standard drawing).1.drawing) ∨
    (drawing.Alike (apply text drawing).1.drawing ∧
      ∀ outcome, (apply text drawing).2 = .ok outcome → outcome.ok = false) := by
  cases read : (Plan.decode text).plan with
  | error stopped =>
    right
    cases stopped <;> exact ⟨by simpa only [apply, read] using .refl drawing, by simp [apply, read]⟩
  | ok plan =>
    rcases plan.run_cases Registry.standard_orderly drawing with done | ⟨error, failed, unchanged⟩
    · left
      exact ⟨plan, rfl, done, by simp only [apply, read, carryOut, done]⟩
    · right
      refine ⟨by simpa only [apply, read, carryOut, failed] using unchanged, ?_⟩
      intro outcome ended
      simp only [apply, read, carryOut, failed] at ended
      cases ended
      rfl

theorem apply_keeps_layer_law [Json.Nesting] {drawing : Drawing Float}
    (listed : drawing.layers.Listed) (placed : drawing.OnLayers) (text : Option Text) :
    let after := (apply text drawing).1.drawing
    drawing.LayerLaw after ∧
      ∀ outcome, (apply text drawing).2 = .ok outcome → outcome.ok = true →
        ∃ plan services, (Plan.decode text).plan = .ok plan ∧
          plan.CompletedBy drawing services ∧
          after.layers.toList = drawing.layers.toList ++
            (drawing.layers.newNames (services.filterMap Service.asksFor?)).map
              fun name => ({ name } : Layer) := by
  intro after
  rcases apply_cases text drawing with ⟨plan, read, done, same⟩ | ⟨alike, failed⟩
  · obtain ⟨services, completed⟩ := Plan.completedBy_of_ok done
    obtain ⟨reached, served, ended⟩ := completed.served
    have layers : after.layers =
        (services.filterMap Service.asksFor?).foldl Layers.ensure drawing.layers := by
      simp only [after, same, ended]
      exact served.layers
    have onLayers : after.OnLayers := by
      simp only [after, same]
      exact completed.onLayers placed
    exact ⟨Drawing.layerLaw_of_ensure listed onLayers layers, fun _ _ _ =>
      ⟨plan, services, read, completed, layers ▸ Layers.toList_ensure_all listed _⟩⟩
  · refine ⟨?_, fun outcome ended good => ?_⟩
    · have layers : after.layers = ([] : List Text).foldl Layers.ensure drawing.layers :=
        alike.layers
      exact Drawing.layerLaw_of_ensure listed (placed.of_alike alike) layers
    · rw [failed outcome ended] at good
      cases good

/-- The name of a layer was changed, and a block has the empty name, under which none is found. -/
theorem apply_breaks_layer_law :
    let renamed : Drawing Float :=
      Drawing.empty.editRecord 0 fun layer => { layer with name := "X" }
    let nameless : BlockDefinition Float := ⟨"", Point.origin, [], [], 0⟩
    let drawing : Drawing Float := Drawing.empty.addBlock nameless
    let text : Text := "\x7b\"action\":\"insert_block\",\"name\":\"\",\"layer\":\"WIRE\"\x7d"
    (renamed.layers.Listed ∧ renamed.OnLayers ∧
        ¬(apply (some text) renamed).1.drawing.layers.Keyed) ∧
      nameless ∈ drawing.blocks.toList ∧ drawing.OnLayers ∧
      (Plan.decode (some text)).plan =
        .ok ⟨[.insertBlock ⟨nameless.name, Point.origin, 1, 0, "WIRE", []⟩]⟩ ∧
      (∃ outcome, (apply (some text) drawing).2 = .ok outcome ∧ outcome.ok = true) ∧
      (apply (some text) drawing).1.drawing.layers.has "WIRE" = false := by
  intro renamed nameless drawing text
  have placed (layers : Layers) : ({ (Drawing.empty : Drawing Float) with layers }).OnLayers :=
    fun _ member => by cases member
  refine ⟨⟨?_, placed _, fun keyed => ?_⟩, List.mem_singleton.mpr rfl, placed _, rfl, ?_, ?_⟩
  · exact Layers.initial_listed
  · have entry :
        (("0" : Text), 0) ∈ (apply (some text) renamed).1.drawing.layers.table.entries := by
      decide +kernel
    have name : (apply (some text) renamed).1.drawing.layers.records[0]?.map Layer.name =
        some "X" := by decide +kernel
    obtain ⟨layer, found, key⟩ := keyed.leads _ entry
    rw [found] at name
    rw [Option.some.inj name] at key
    exact absurd key (by decide)
  · exact exists_ok_of_map (by decide +kernel)
  · decide +kernel

theorem apply_keeps_layer_law_of_spellings :
    let text : Text :=
      "[\x7b\"action\":\"circle\",\"layer\":\"w\"\x7d," ++
        "\x7b\"action\":\"insert_block\",\"name\":\"1\",\"layer\":\"2\"\x7d," ++
        "\x7b\"action\":\"change_layer\",\"targetLayer\":\"W\"\x7d]"
    let drawing : Drawing Float := Drawing.empty.append { geometry := none }
    let after := (apply (some text) drawing).1.drawing
    drawing.LayerLaw after ∧ after.layers.toList.map Layer.name = ["0", "w"] ∧
      after.entities.map Entity.layer = ["W", "W"] := by
  intro text drawing after
  have listed : drawing.layers.Listed := Layers.initial_listed
  have placed : drawing.OnLayers := by
    intro entity member
    obtain rfl := List.mem_singleton.mp member
    rfl
  exact ⟨(apply_keeps_layer_law listed placed (some text)).1, by decide +kernel, by decide +kernel⟩

end Command

end DrawingPlan
