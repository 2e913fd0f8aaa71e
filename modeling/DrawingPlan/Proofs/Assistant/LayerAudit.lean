import DrawingPlan.Proofs.Assistant.LayerLaw
import Mathlib.Data.List.Flatten

set_option autoImplicit false

namespace DrawingPlan

variable {α : Type}

namespace Layers

structure Supplied (before after : Layers) : Prop where
  listed : after.Listed
  has : ∀ name, before.has name = true → after.has name = true
  known : ∀ name, before.has name = true → after.get? name = before.get? name
  fresh : ∀ name, before.has name = false → after.has name = true →
    ∃ spelling : Text, spelling.lower = name.lower ∧ after.get? name = some { name := spelling }

theorem get?_of_missing {layers : Layers} {name : Text} (missing : layers.has name = false) :
    layers.get? name = none := by
  have unlisted : layers.table.get? name = none := by
    simpa [has, NameTable.has] using missing
  simp [get?, unlisted]

theorem get?_ensure_of_has {layers : Layers} (listed : layers.Listed) {name : Text}
    (known : layers.has name = true) (added : Text) :
    (layers.ensure added).get? name = layers.get? name := by
  by_cases held : layers.has added = true
  · rw [ensure_of_has held]
  · have different : name.lower ≠ added.lower := fun same =>
      held (layers.has_congr same ▸ known)
    obtain ⟨number, leads⟩ := Option.isSome_iff_exists.mp known
    have member : number ∈ layers.table.values := by
      obtain ⟨early, late, entries, -⟩ := List.lookup_eq_some_iff.mp leads
      simp [NameTable.values, entries]
    -- The new record stands behind the others, so that this one keeps its number.
    rw [ensure_of_fresh held, get?, get?, add, NameTable.get?_put_of_ne _ different, leads]
    simp [List.getElem?_append_left (listed number member)]

theorem get?_ensure_of_fresh {layers : Layers} {name added : Text}
    (missing : layers.has name = false) (same : name.lower = added.lower) :
    (layers.ensure added).get? name = some { name := added } := by
  have fresh : layers.has added ≠ true := by
    rw [← layers.has_congr same, missing]
    exact Bool.false_ne_true
  rw [ensure_of_fresh fresh, get?, add]
  have leads := layers.table.get?_put added layers.records.length
  simp only [NameTable.get?, same] at leads ⊢
  simp [leads]

theorem Supplied.refl {layers : Layers} (listed : layers.Listed) : layers.Supplied layers where
  listed := listed
  has _ held := held
  known _ _ := rfl
  fresh name missing held := by
    rw [missing] at held
    cases held

theorem Supplied.ensure {before after : Layers} (supplied : before.Supplied after) (added : Text) :
    before.Supplied (after.ensure added) where
  listed := supplied.listed.ensure added
  has name held := has_ensure_of_has (supplied.has name held) added
  known name held := by
    rw [get?_ensure_of_has supplied.listed (supplied.has name held), supplied.known name held]
  fresh name missing held := by
    cases there : after.has name with
    | true =>
      rw [get?_ensure_of_has supplied.listed there]
      exact supplied.fresh name missing there
    | false =>
      have same : name.lower = added.lower := by simpa [has_ensure, there] using held
      exact ⟨added, same.symm, get?_ensure_of_fresh there same⟩

theorem supplied_ensure_all {layers : Layers} (listed : layers.Listed) (names : List Text) :
    layers.Supplied (names.foldl ensure layers) := by
  suffices onward : ∀ reached, layers.Supplied reached →
      layers.Supplied (names.foldl ensure reached) from onward layers (.refl listed)
  induction names with
  | nil => exact fun _ supplied => supplied
  | cons name rest ih => exact fun _ supplied => ih _ (supplied.ensure name)

end Layers

/-- What no action takes back came about in a run exactly when one of the actions made it so. -/
theorem Served.brought_about_iff {registry last : Registry α} {drawing reached : Drawing α}
    {services : List (Service α)} (served : Served registry drawing services last reached)
    (held : Drawing α → Prop)
    (kept : ∀ service ∈ services, held service.given → held service.left) :
    (¬held drawing ∧ held reached) ↔
      ∃ service ∈ services, ¬held service.given ∧ held service.left := by
  have chained := served.chained
  clear served
  induction chained with
  | nil drawing => simp
  | @cons service rest reached _ chained ih =>
    obtain ⟨own, others⟩ := List.forall_mem_cons.mp kept
    have later := ih others
    -- What the first action brought about is still there in the end.
    have onward : held service.left → held reached := fun start =>
      chained.preserves start others
    simp only [List.exists_mem_cons_iff, ← later]
    by_cases start : held service.given
    · simp [start, own start]
    · by_cases left : held service.left
      · simp [start, left, onward left]
      · simp [start, left]

def Drawing.gains (before after : Drawing α) (name : Text) : Bool :=
  !before.layers.has name && after.layers.has name

section Gains

variable {before after : Drawing α}

theorem Drawing.gains_iff {name : Text} :
    before.gains after name = true ↔
      ¬before.layers.has name = true ∧ after.layers.has name = true := by
  simp [gains]

theorem Drawing.get?_of_gains {name : Text} (gained : before.gains after name = true) :
    before.layers.get? name = none :=
  Layers.get?_of_missing (Bool.eq_false_iff.mpr (gains_iff.mp gained).1)

theorem Layers.Supplied.made (supplied : before.layers.Supplied after.layers) {name : Text}
    (gained : before.gains after name = true) :
    ∃ spelling : Text, spelling.lower = name.lower ∧
      after.layers.get? name = some { name := spelling } := by
  obtain ⟨missing, held⟩ := Drawing.gains_iff.mp gained
  exact supplied.fresh name (Bool.eq_false_iff.mpr missing) held

theorem Layers.Supplied.findings (supplied : before.layers.Supplied after.layers) (name : Text) :
    Drawing.layerFindings name (after.layers.get? name) =
      if before.gains after name then []
      else Drawing.layerFindings name (before.layers.get? name) := by
  cases gained : before.gains after name with
  | true =>
    obtain ⟨spelling, -, made⟩ := supplied.made gained
    simp [made, Drawing.layerFindings]
  | false =>
    cases there : before.layers.has name with
    | true => simp [supplied.known name there]
    | false =>
      have missing : after.layers.has name = false := by simpa [Drawing.gains, there] using gained
      simp [get?_of_missing there, get?_of_missing missing]

theorem Layers.Supplied.audit {before after : Drawing Float}
    (supplied : before.layers.Supplied after.layers) (required : List Text) :
    Command.audit after required =
      Command.audit before (required.filter fun name => !before.gains after name) := by
  simp only [Command.audit, Drawing.auditLayers, supplied.findings]
  congr 1
  induction required with
  | nil => rfl
  | cons name rest ih => cases gained : before.gains after name <;> simp [gained, ih]

end Gains

theorem Service.has_of_has [Scalar α] {service : Service α}
    (replied : service.action.perform service.given = service.reply) {name : Text}
    (held : service.given.layers.has name = true) :
    service.left.layers.has name = true := by
  have layers : service.left.layers =
      service.asksFor?.elim service.given.layers service.given.layers.ensure :=
    (Service.effect replied).layers
  rw [layers]
  cases service.asksFor? with
  | none => exact held
  | some added => exact Layers.has_ensure_of_has held added

namespace Command

def Creates [Json.Nesting] (text : Option Text) (drawing : Drawing Float) (name : Text) : Prop :=
  ∃ outcome plan services, (apply text drawing).2 = .ok outcome ∧ outcome.ok = true ∧
    (Plan.decode text).plan = .ok plan ∧ plan.CompletedBy drawing services ∧
    ∃ service ∈ services, ¬service.given.layers.has name = true ∧
      service.left.layers.has name = true

theorem apply_of_read [Json.Nesting] {text : Option Text} {plan : Plan Float}
    (read : (Plan.decode text).plan = .ok plan) (drawing : Drawing Float) :
    (apply text drawing).1.drawing = (plan.run .standard drawing).1.drawing := by
  simp only [apply, read, carryOut]
  split <;> rfl

theorem ends_well_of_run [Json.Nesting] {text : Option Text} {plan : Plan Float}
    (read : (Plan.decode text).plan = .ok plan) {drawing : Drawing Float}
    (done : (plan.run .standard drawing).2 = .ok ()) :
    ∃ outcome, (apply text drawing).2 = .ok outcome ∧ outcome.ok = true := by
  simp only [apply, read, carryOut, done]
  exact ⟨_, rfl, rfl⟩

theorem gains_iff_creates [Json.Nesting] (text : Option Text) (drawing : Drawing Float)
    (name : Text) :
    drawing.gains (apply text drawing).1.drawing name = true ↔ Creates text drawing name := by
  have gained {plan : Plan Float} {services : List (Service Float)}
      (read : (Plan.decode text).plan = .ok plan) (completed : plan.CompletedBy drawing services) :
      drawing.gains (apply text drawing).1.drawing name = true ↔
        ∃ service ∈ services, ¬service.given.layers.has name = true ∧
          service.left.layers.has name = true := by
    obtain ⟨reached, served, ended⟩ := completed.served
    rw [Drawing.gains_iff, apply_of_read read, ended]
    exact served.brought_about_iff (fun drawing => drawing.layers.has name = true)
      fun service member => Service.has_of_has (served.replies service member)
  constructor
  · intro gains
    rcases apply_cases text drawing with ⟨plan, read, done, -⟩ | ⟨alike, -⟩
    · obtain ⟨services, completed⟩ := Plan.completedBy_of_ok done
      obtain ⟨outcome, ended, good⟩ := ends_well_of_run read done
      exact ⟨outcome, plan, services, ended, good, read, completed,
        (gained read completed).mp gains⟩
    · rw [Drawing.gains_iff, alike.layers] at gains
      exact absurd gains.2 gains.1
  · rintro ⟨outcome, plan, services, -, -, read, completed, added⟩
    exact (gained read completed).mpr added

theorem layers_of_apply [Json.Nesting] {drawing : Drawing Float} (listed : drawing.layers.Listed)
    (text : Option Text) : drawing.layers.Supplied (apply text drawing).1.drawing.layers := by
  rcases apply_cases text drawing with ⟨plan, read, done, same⟩ | ⟨alike, -⟩
  · obtain ⟨services, completed⟩ := Plan.completedBy_of_ok done
    obtain ⟨reached, served, ended⟩ := completed.served
    rw [same, ended]
    show drawing.layers.Supplied reached.layers
    rw [served.layers]
    exact Layers.supplied_ensure_all listed _
  · rw [alike.layers]
    exact .refl listed

/--
The audit after a plan is that of before, of the names without those that the plan created a layer
for. What the audit of before says of such a name is that its layer is missing. The table of a
drawing that calls have built is always listed.
-/
theorem audit_after_apply [Json.Nesting] {drawing : Drawing Float} (listed : drawing.layers.Listed)
    (text : Option Text) (required : List Text) :
    let after := (apply text drawing).1.drawing
    (∀ name, drawing.gains after name = true ↔ Creates text drawing name) ∧
      (∀ name, drawing.gains after name = true →
        (∃ spelling : Text, spelling.lower = name.lower ∧
          after.layers.get? name = some { name := spelling }) ∧
        ∀ rest, audit drawing (name :: rest) = ("Missing layer: " ++ name) :: audit drawing rest) ∧
      audit after required =
        audit drawing (required.filter fun name => !drawing.gains after name) ∧
      (audit after required).Sublist (audit drawing required) := by
  intro after
  have supplied : drawing.layers.Supplied after.layers := layers_of_apply listed text
  refine ⟨gains_iff_creates text drawing, fun name gained => ⟨supplied.made gained, fun rest => ?_⟩,
    supplied.audit required, ?_⟩
  · simp [audit, Drawing.auditLayers, Drawing.get?_of_gains gained, Drawing.layerFindings]
  · rw [supplied.audit required]
    exact (List.filter_sublist.flatMap _).append_right _

theorem audit_after_apply_of_spellings :
    let text : Text := "\x7b\"action\":\"circle\",\"layer\":\"w\"\x7d"
    let drawing : Drawing Float :=
      { (Drawing.empty : Drawing Float) with
        layers := Layers.initial.add { name := "t", off := true } }
    let after := (apply (some text) drawing).1.drawing
    let required : List Text := ["W", "T", "w", "N"]
    drawing.layers.Listed ∧ (audit after required).Sublist (audit drawing required) ∧
      Creates (some text) drawing "W" ∧
      audit drawing required =
        ["Missing layer: W", "Layer T is OFF (recommended: turn it ON).",
          "Missing layer: w", "Missing layer: N", "Layer audit finished."] ∧
      audit after required =
        ["Layer T is OFF (recommended: turn it ON).", "Missing layer: N",
          "Layer audit finished."] := by
  intro text drawing after required
  have listed : drawing.layers.Listed := Layers.initial_listed.add _
  obtain ⟨creates, -, -, sublist⟩ := audit_after_apply listed (some text) required
  exact ⟨listed, sublist, (creates "W").mp (by decide +kernel), by decide +kernel,
    by decide +kernel⟩

end Command

end DrawingPlan
