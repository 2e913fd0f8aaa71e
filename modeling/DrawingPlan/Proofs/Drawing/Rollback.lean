import DrawingPlan.Proofs.Drawing.Session

set_option autoImplicit false

namespace DrawingPlan

variable {α : Type}

namespace Change

def onLayer (number : Nat) (layer : Layer) : Change α → Layer
  | .editRecord edited how => if edited = number then how layer else layer
  | _ => layer

def onLayers (number : Nat) (changes : List (Change α)) (layer : Layer) : Layer :=
  changes.foldl (onLayer number) layer

end Change

/-- Definitions that differ in their serial numbers alone have the same content. -/
def BlockDefinition.content (definition : BlockDefinition α) : BlockDefinition α :=
  { definition with serial := 0 }

def Blocks.content (blocks : Blocks α) : List (Text × BlockDefinition α) :=
  blocks.table.entries.map fun entry => (entry.1, entry.2.content)

def Change.addition? : Change α → Option (Text × BlockDefinition α)
  | .addBlock definition => some (definition.name.lower, definition.content)
  | _ => none

theorem Layers.records_ensure {layers : Layers} {number : Nat} (name : Text)
    (bound : number < layers.records.length) :
    (layers.ensure name).records[number]? = layers.records[number]? := by
  by_cases known : layers.has name = true
  · simp [Layers.ensure, known]
  · simp [Layers.ensure, Layers.add, known, List.getElem?_append_left bound]

namespace Drawing

theorem records_apply {drawing : Drawing α} {number : Nat} (change : Change α)
    (bound : number < drawing.layers.records.length) :
    (change.apply drawing).layers.records[number]? =
      (drawing.layers.records[number]?).map (fun layer => change.onLayer number layer) := by
  cases change with
  | addLayer layer =>
    simp [Change.apply, Change.onLayer, addLayer, Layers.add, List.getElem?_append_left bound]
  | ensureLayer name =>
    simpa [Change.apply, Change.onLayer, ensureLayer] using Layers.records_ensure name bound
  | editRecord edited how =>
    by_cases same : edited = number <;>
      simp [Change.apply, Change.onLayer, editRecord, Layers.editRecord, same]
  | append entity => simp [Change.apply, Change.onLayer, append]
  | erase place => simp [Change.apply, Change.onLayer, erase, editEntity]
  | edit place how => simp [Change.apply, Change.onLayer, editEntity]
  | addBlock definition => simp [Change.apply, Change.onLayer, addBlock]

theorem records_changed {drawing : Drawing α} {number : Nat} (changes : List (Change α))
    (bound : number < drawing.layers.records.length) :
    (drawing.changed changes).layers.records[number]? =
      (drawing.layers.records[number]?).map (Change.onLayers number changes) := by
  induction changes generalizing drawing with
  | nil =>
    have unchanged : Change.onLayers number ([] : List (Change α)) = id := rfl
    simp [unchanged]
  | cons change rest ih =>
    have inside : number < (change.apply drawing).layers.records.length :=
      Nat.lt_of_lt_of_le bound (grown_apply change drawing).records
    -- The rest edits what the first change made of the layer.
    rw [changed_cons, ih inside, records_apply change bound, Option.map_map]
    rfl

theorem content_apply (change : Change α) (drawing : Drawing α) :
    (change.apply drawing).blocks.content =
      putEntries change.addition?.toList drawing.blocks.content := by
  cases change with
  | addBlock definition =>
    exact map_putEntry BlockDefinition.content _ _ drawing.blocks.table.entries
  | _ => rfl

theorem content_changed (changes : List (Change α)) (drawing : Drawing α) :
    (drawing.changed changes).blocks.content =
      putEntries (changes.filterMap Change.addition?) drawing.blocks.content := by
  induction changes generalizing drawing with
  | nil => rfl
  | cons change rest ih =>
    rw [changed_cons, ih, content_apply]
    cases added : change.addition? <;> simp [putEntries, added]

end Drawing

theorem filterMap_eq_filterMap_iff {β γ : Type} {f g : β → Option γ} {values : List β}
    (left : ∀ value ∈ values, (f value).isSome) (right : ∀ value ∈ values, (g value).isSome) :
    values.filterMap f = values.filterMap g ↔ ∀ value ∈ values, f value = g value := by
  induction values with
  | nil => simp
  | cons value rest ih =>
    obtain ⟨x, isX⟩ := Option.isSome_iff_exists.mp (left value (by simp))
    obtain ⟨y, isY⟩ := Option.isSome_iff_exists.mp (right value (by simp))
    have rests := ih (fun other member => left other (List.mem_cons_of_mem _ member))
      (fun other member => right other (List.mem_cons_of_mem _ member))
    simp [isX, isY, rests]

theorem Layers.toList_eq_iff {before after : Layers} (table : after.table = before.table)
    (listedBefore : before.Listed) (listedAfter : after.Listed) :
    after.toList = before.toList ↔
      ∀ number ∈ before.table.values, after.records[number]? = before.records[number]? := by
  rw [Layers.toList, Layers.toList, table]
  apply filterMap_eq_filterMap_iff
  · intro number member
    have bound : number < after.records.length := listedAfter number (table ▸ member)
    simp [bound]
  · intro number member
    have bound : number < before.records.length := listedBefore number member
    simp [bound]

structure Drawing.SameTables (before after : Drawing α) : Prop where
  layers : after.layers.toList = before.layers.toList
  blocks : after.blocks.content = before.blocks.content

/--
Each layer that the table leads to is in the end as it was, and the last definition that was added
under a name, if any, is the one that the name had.
-/
structure Drawing.LeftBy (drawing : Drawing α) (changes : List (Change α)) : Prop where
  layers : ∀ number ∈ drawing.layers.table.values, ∀ layer,
    drawing.layers.records[number]? = some layer → Change.onLayers number changes layer = layer
  blocks : ∀ key definition,
    (changes.filterMap Change.addition?).reverse.lookup key = some definition →
      drawing.blocks.content.lookup key = some definition

namespace Drawing

theorem backTo_records {drawing : Drawing α} {number : Nat} (changes : List (Change α))
    (bound : number < drawing.layers.records.length) :
    ((drawing.opened.changed changes).backTo drawing).layers.records[number]? =
      (drawing.layers.records[number]?).map (Change.onLayers number changes) := by
  have inside : number < drawing.opened.layers.records.length := bound
  have edited := records_changed changes inside
  simp only [backTo, Layers.restore, List.getElem?_take, bound, if_true]
  exact edited

theorem sameTables_backTo_iff {drawing : Drawing α} (listed : drawing.layers.Listed)
    (distinct : drawing.blocks.Distinct) (changes : List (Change α)) :
    drawing.SameTables ((drawing.opened.changed changes).backTo drawing) ↔
      drawing.LeftBy changes := by
  have grown : drawing.opened.Grown (drawing.opened.changed changes) :=
    grown_changed changes drawing.opened
  have layers : ((drawing.opened.changed changes).backTo drawing).layers.toList =
      drawing.layers.toList ↔ _ :=
    Layers.toList_eq_iff rfl listed (listed.restore grown.records)
  have blocks : ((drawing.opened.changed changes).backTo drawing).blocks.content =
      putEntries (changes.filterMap Change.addition?) drawing.blocks.content :=
    content_changed changes drawing.opened
  have keys : (drawing.blocks.content.map (·.1)).Nodup := by
    simpa [Blocks.content, Blocks.Distinct, Function.comp_def] using distinct
  -- Layers and blocks are compared apart: by their numbers, and by their last additions.
  constructor
  · intro same
    refine ⟨?_, (putEntries_eq_self_iff keys).mp (blocks ▸ same.blocks)⟩
    intro number member layer found
    have kept := layers.mp same.layers number member
    rw [backTo_records changes (listed number member), found] at kept
    exact Option.some.inj kept
  · intro left
    refine ⟨layers.mpr ?_, blocks.trans ((putEntries_eq_self_iff keys).mpr left.blocks)⟩
    intro number member
    have bound := listed number member
    rw [backTo_records changes bound, List.getElem?_eq_getElem bound, Option.map_some,
      left.layers number member _ (List.getElem?_eq_getElem bound)]

theorem transact_changed {ε β : Type} {drawing : Drawing α}
    (idle : drawing.inTransaction = false) (changes : List (Change α)) (failure : ε) :
    drawing.transact (fun begun => (begun.changed changes, (.error failure : Except ε β))) =
      ((drawing.opened.changed changes).backTo drawing, .error (.body failure)) := by
  have started : drawing.begin? = .ok drawing.opened := begin?_eq_ok_iff.mpr ⟨idle, rfl⟩
  have undone := rollback?_of_grown (grown_changed changes drawing.opened)
  simp only [transact, started, conclude?, Except.isOk, Except.toBool, Bool.not_false, if_true,
    undone]
  rfl

def Reachable (drawing : Drawing α) : Prop :=
  ∃ name units scale color operations,
    ((Session.fresh name units scale color).run operations).drawing = drawing

theorem Reachable.listed {drawing : Drawing α} (reachable : drawing.Reachable) :
    drawing.layers.Listed := by
  obtain ⟨name, units, scale, color, operations, rfl⟩ := reachable
  exact (Session.sound_run (Session.sound_fresh name units scale color) operations).listed

theorem Reachable.distinct {drawing : Drawing α} (reachable : drawing.Reachable) :
    drawing.blocks.Distinct := by
  obtain ⟨name, units, scale, color, operations, rfl⟩ := reachable
  exact (Session.sound_run (Session.sound_fresh name units scale color) operations).distinct

end Drawing

def Change.Recoverable : Change α → Prop
  | .editRecord .. | .addBlock _ => False
  | _ => True

namespace Drawing

structure Extended (before after : Drawing α) : Prop where
  frame : after = { before with entities := after.entities, layers := after.layers }
  records : before.layers.records <+: after.layers.records

theorem Extended.trans {first second third : Drawing α} (early : first.Extended second)
    (late : second.Extended third) : first.Extended third where
  frame := by
    rw [late.frame, early.frame]
  records := early.records.trans late.records

theorem extended_apply {change : Change α} (recoverable : change.Recoverable)
    (drawing : Drawing α) : drawing.Extended (change.apply drawing) := by
  cases change with
  | append entity => exact ⟨rfl, List.prefix_rfl⟩
  | erase place => exact ⟨rfl, List.prefix_rfl⟩
  | edit place how => exact ⟨rfl, List.prefix_rfl⟩
  | addLayer layer => exact ⟨rfl, List.prefix_append _ _⟩
  | ensureLayer name =>
    refine ⟨rfl, ?_⟩
    by_cases known : drawing.layers.has name = true <;>
      simp [Change.apply, ensureLayer, Layers.ensure, Layers.add, known]
  | editRecord number how => cases recoverable
  | addBlock definition => cases recoverable

theorem extended_changed {changes : List (Change α)}
    (recoverable : ∀ change ∈ changes, change.Recoverable) (drawing : Drawing α) :
    drawing.Extended (drawing.changed changes) := by
  induction changes generalizing drawing with
  | nil => exact ⟨rfl, List.prefix_rfl⟩
  | cons change rest ih =>
    have first := extended_apply (recoverable change (by simp)) drawing
    exact first.trans (ih (fun later member => recoverable later (List.mem_cons_of_mem _ member)) _)

theorem backTo_of_extended {drawing reached : Drawing α} (idle : drawing.checkpoint = none)
    (extended : drawing.opened.Extended reached) :
    reached.backTo drawing = { drawing with entities := drawing.copies } := by
  have records : reached.layers.records.take drawing.layers.records.length =
      drawing.layers.records := (List.prefix_iff_eq_take.mp extended.records).symm
  rw [backTo, extended.frame]
  simp only [opened, Layers.restore, records, ← idle]

end Drawing

end DrawingPlan
