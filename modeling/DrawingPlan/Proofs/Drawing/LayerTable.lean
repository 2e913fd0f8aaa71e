import DrawingPlan.Proofs.Drawing.Session
import Mathlib.Data.List.Basic

set_option autoImplicit false

namespace DrawingPlan

variable {α : Type}

namespace Layers

def Leads (layers : Layers) (entry : Text × Nat) : Prop :=
  ∃ layer, layers.records[entry.2]? = some layer ∧ entry.1 = layer.name.lower

structure Keyed (layers : Layers) : Prop where
  leads : ∀ entry ∈ layers.table.entries, layers.Leads entry
  distinct : (layers.table.entries.map (·.1)).Nodup

def NamesKept (before after : Layers) : Prop :=
  ∀ (number : Nat) (layer : Layer), before.records[number]? = some layer →
    ∃ later, after.records[number]? = some later ∧ later.name = layer.name

theorem NamesKept.refl (layers : Layers) : layers.NamesKept layers :=
  fun _ layer found => ⟨layer, found, rfl⟩

theorem NamesKept.trans {first second third : Layers} (early : first.NamesKept second)
    (late : second.NamesKept third) : first.NamesKept third := by
  intro number layer found
  obtain ⟨middle, there, same⟩ := early number layer found
  obtain ⟨later, found, again⟩ := late number middle there
  exact ⟨later, found, again.trans same⟩

theorem Leads.kept {before after : Layers} {entry : Text × Nat} (leads : before.Leads entry)
    (names : before.NamesKept after) : after.Leads entry := by
  obtain ⟨layer, found, key⟩ := leads
  obtain ⟨later, there, same⟩ := names entry.2 layer found
  exact ⟨later, there, key.trans (congrArg Text.lower same.symm)⟩

theorem has_iff {layers : Layers} {name : Text} :
    layers.has name = true ↔ name.lower ∈ layers.table.entries.map (·.1) := by
  rw [has, NameTable.has, NameTable.get?, List.lookup_isSome_iff, List.mem_map]
  constructor
  · rintro ⟨entry, member, same⟩
    exact ⟨entry, member, (eq_of_beq same).symm⟩
  · rintro ⟨entry, member, same⟩
    exact ⟨entry, member, beq_iff_eq.mpr same.symm⟩

theorem ensure_of_has {layers : Layers} {name : Text} (known : layers.has name = true) :
    layers.ensure name = layers :=
  if_pos known

theorem ensure_of_fresh {layers : Layers} {name : Text} (fresh : layers.has name ≠ true) :
    layers.ensure name = layers.add { name } :=
  if_neg fresh

namespace Keyed

variable {layers : Layers}

theorem keys (keyed : layers.Keyed) :
    layers.table.entries.map (·.1) = layers.toList.map fun layer => layer.name.lower := by
  have leads := keyed.leads
  rw [toList, NameTable.values]
  generalize layers.table.entries = entries at leads
  induction entries with
  | nil => rfl
  | cons entry rest ih =>
    obtain ⟨own, others⟩ := List.forall_mem_cons.mp leads
    obtain ⟨layer, found, key⟩ := own
    simp only [List.map_cons, List.filterMap_cons, found, key, ih others]

theorem kept {after : Layers} (keyed : layers.Keyed) (names : layers.NamesKept after)
    (table : after.table = layers.table) : after.Keyed where
  leads entry member := (keyed.leads entry (table ▸ member)).kept names
  distinct := table ▸ keyed.distinct

end Keyed

theorem namesKept_add (layers : Layers) (layer : Layer) : layers.NamesKept (layers.add layer) := by
  intro number held found
  have inside := (List.getElem?_eq_some_iff.mp found).1
  exact ⟨held, by simpa [add, List.getElem?_append_left inside] using found, rfl⟩

theorem leads_of_mem_add {layers : Layers} {layer : Layer} {entry : Text × Nat}
    (member : entry ∈ (layers.add layer).table.entries) :
    entry ∈ layers.table.entries ∨ (layers.add layer).Leads entry := by
  rcases mem_putEntry member with rfl | old
  · exact .inr ⟨layer, by simp [Layers.add], rfl⟩
  · exact .inl old

theorem Keyed.add {layers : Layers} (keyed : layers.Keyed) (layer : Layer) :
    (layers.add layer).Keyed where
  leads entry member := by
    rcases leads_of_mem_add member with old | new
    · exact (keyed.leads entry old).kept (layers.namesKept_add layer)
    · exact new
  distinct := nodup_keys_putEntry _ _ keyed.distinct

theorem Keyed.ensure {layers : Layers} (keyed : layers.Keyed) (name : Text) :
    (layers.ensure name).Keyed := by
  by_cases known : layers.has name = true
  · rwa [ensure_of_has known]
  · rw [ensure_of_fresh known]
    exact keyed.add { name }

theorem namesKept_ensure (layers : Layers) (name : Text) :
    layers.NamesKept (layers.ensure name) := by
  by_cases known : layers.has name = true
  · rw [ensure_of_has known]
    exact .refl layers
  · rw [ensure_of_fresh known]
    exact layers.namesKept_add { name }

theorem keyed_ensure_all {layers : Layers} (keyed : layers.Keyed) (names : List Text) :
    (names.foldl ensure layers).Keyed := by
  induction names generalizing layers with
  | nil => exact keyed
  | cons name rest ih => exact ih (keyed.ensure name)

theorem namesKept_ensure_all (layers : Layers) (names : List Text) :
    layers.NamesKept (names.foldl ensure layers) := by
  induction names generalizing layers with
  | nil => exact .refl layers
  | cons name rest ih => exact (layers.namesKept_ensure name).trans (ih (layers.ensure name))

theorem leads_of_mem_ensure_all {layers : Layers} {names : List Text} {entry : Text × Nat}
    (member : entry ∈ (names.foldl ensure layers).table.entries) :
    entry ∈ layers.table.entries ∨ (names.foldl ensure layers).Leads entry := by
  induction names generalizing layers with
  | nil => exact .inl member
  | cons name rest ih =>
    rcases ih member with early | late
    · by_cases known : layers.has name = true
      · rw [ensure_of_has known] at early
        exact .inl early
      · rw [ensure_of_fresh known] at early
        refine (leads_of_mem_add early).imp_right fun leads => ?_
        rw [← ensure_of_fresh known] at leads
        exact leads.kept ((layers.ensure name).namesKept_ensure_all rest)
    · exact .inr late

theorem keyed_initial : Layers.initial.Keyed := by
  have empty : Layers.Keyed {} := ⟨by simp, List.nodup_nil⟩
  exact empty.add { name := defaultLayer }

theorem Keyed.restore {before after : Layers} (keyed : before.Keyed)
    (names : before.NamesKept after) :
    (after.restore before.table before.records.length).Keyed := by
  refine keyed.kept (fun number layer found => ?_) rfl
  have inside := (List.getElem?_eq_some_iff.mp found).1
  obtain ⟨later, there, same⟩ := names number layer found
  exact ⟨later, by simpa [Layers.restore, List.getElem?_take, inside] using there, same⟩

theorem has_congr (layers : Layers) {name other : Text} (same : other.lower = name.lower) :
    layers.has other = layers.has name := by
  simp only [has, NameTable.has, NameTable.get?, same]

theorem has_ensure (layers : Layers) (name other : Text) :
    (layers.ensure name).has other = (layers.has other || other.lower == name.lower) := by
  by_cases known : layers.has name = true
  · rw [ensure_of_has known]
    by_cases same : other.lower = name.lower
    · simp [layers.has_congr same, known]
    · simp [same]
  · rw [ensure_of_fresh known]
    by_cases same : other.lower = name.lower
    · rw [(layers.add { name }).has_congr same]
      simp [same, add, has, NameTable.has, NameTable.get?_put]
    · simp [same, add, has, NameTable.has, NameTable.get?_put_of_ne _ same]

theorem toList_add_of_fresh {layers : Layers} (listed : layers.Listed) (layer : Layer)
    (fresh : layers.has layer.name ≠ true) :
    (layers.add layer).toList = layers.toList ++ [layer] := by
  have entries :
      (layers.add layer).table.values = layers.table.values ++ [layers.records.length] := by
    simp [add, NameTable.put, NameTable.values, putEntry_of_fresh _ (mt has_iff.mpr fresh)]
  -- The numbers of before lead to records of before.
  have old : layers.table.values.filterMap ((layers.add layer).records[·]?) = layers.toList := by
    refine List.filterMap_congr fun number member => ?_
    simp [add, List.getElem?_append_left (listed number member)]
  rw [toList, entries, List.filterMap_append, old]
  simp [add]

/-- The names that a table does not have, each once, in the spelling in which it comes first. -/
def newNames (layers : Layers) (names : List Text) : List Text :=
  (names.filter fun name => !layers.has name).eraseDupsBy fun name other =>
    name.lower == other.lower

theorem newNames_cons_of_has {layers : Layers} {name : Text} (known : layers.has name = true)
    (rest : List Text) : layers.newNames (name :: rest) = layers.newNames rest := by
  simp [newNames, known]

theorem newNames_cons_of_fresh {layers : Layers} {name : Text} (fresh : layers.has name ≠ true)
    (rest : List Text) :
    layers.newNames (name :: rest) = name :: (layers.ensure name).newNames rest := by
  have others : (rest.filter fun other => !(layers.ensure name).has other) =
      (rest.filter fun other => !layers.has other).filter fun other =>
        decide ((other.lower == name.lower) = false) := by
    rw [List.filter_filter]
    refine List.filter_congr fun other _ => ?_
    rw [has_ensure]
    cases layers.has other <;> cases same : other.lower == name.lower <;> simp
  simp [newNames, fresh, List.eraseDupsBy_cons, others]

theorem toList_ensure_all {layers : Layers} (listed : layers.Listed) (names : List Text) :
    (names.foldl ensure layers).toList =
      layers.toList ++ (layers.newNames names).map fun name => ({ name } : Layer) := by
  induction names generalizing layers with
  | nil => simp [newNames]
  | cons name rest ih =>
    rw [List.foldl_cons, ih (listed.ensure name)]
    by_cases known : layers.has name = true
    · rw [newNames_cons_of_has known, ensure_of_has known]
    · rw [newNames_cons_of_fresh known, List.map_cons, List.append_cons, ensure_of_fresh known,
        toList_add_of_fresh listed { name } known]

end Layers

def Change.KeepsNames : Change α → Prop
  | .editRecord _ how => ∀ layer, (how layer).name = layer.name
  | _ => True

def Operation.KeepsNames : Operation α → Prop
  | .change made => made.KeepsNames
  | _ => True

theorem Layers.namesKept_editRecord (layers : Layers) (number : Nat) {how : Layer → Layer}
    (keeps : ∀ layer, (how layer).name = layer.name) :
    layers.NamesKept (layers.editRecord number how) := by
  intro other layer found
  by_cases same : number = other
  · exact ⟨how layer, by simp [editRecord, same, found], keeps layer⟩
  · exact ⟨layer, by simp [editRecord, same, found], rfl⟩

namespace Drawing

theorem namesKept_apply {change : Change α} (keeps : change.KeepsNames) (drawing : Drawing α) :
    drawing.layers.NamesKept (change.apply drawing).layers := by
  cases change with
  | append entity => exact .refl _
  | erase place => exact .refl _
  | edit place how => exact .refl _
  | addLayer layer => exact drawing.layers.namesKept_add layer
  | ensureLayer name => exact drawing.layers.namesKept_ensure name
  | editRecord number how => exact drawing.layers.namesKept_editRecord number keeps
  | addBlock definition => exact .refl _

theorem keyed_apply {drawing : Drawing α} (keyed : drawing.layers.Keyed) {change : Change α}
    (keeps : change.KeepsNames) : (change.apply drawing).layers.Keyed := by
  cases change with
  | append entity => exact keyed
  | erase place => exact keyed
  | edit place how => exact keyed
  | addLayer layer => exact keyed.add layer
  | ensureLayer name => exact keyed.ensure name
  | editRecord number how => exact keyed.kept (drawing.layers.namesKept_editRecord number keeps) rfl
  | addBlock definition => exact keyed

end Drawing

namespace Session

structure Named (session : Session α) : Prop where
  keyed : session.drawing.layers.Keyed
  held : session.active = true → ∃ begun, session.begun = some begun ∧ begun.layers.Keyed ∧
    begun.layers.NamesKept session.drawing.layers

theorem named_after {session : Session α} (sound : session.Sound) (named : session.Named)
    {operation : Operation α} (keeps : operation.KeepsNames) :
    (session.after operation).Named := by
  cases operation with
  | change made =>
    refine ⟨Drawing.keyed_apply named.keyed keeps, fun active => ?_⟩
    obtain ⟨begun, known, keyed, since⟩ := named.held active
    exact ⟨begun, known, keyed, since.trans (Drawing.namesKept_apply keeps session.drawing)⟩
  | begin =>
    by_cases active : session.active = true
    · simpa [after, Operation.perform, sound.begin?, active] using named
    · simp only [after, Operation.perform, sound.begin?, if_neg active]
      exact ⟨named.keyed, fun _ => ⟨_, rfl, named.keyed, .refl _⟩⟩
  | commit =>
    by_cases active : session.active = true
    · simp only [after, Operation.perform, sound.commit?, active, if_true]
      exact ⟨named.keyed, fun impossible => by cases impossible⟩
    · simpa [after, Operation.perform, sound.commit?, active] using named
  | rollback =>
    by_cases active : session.active = true
    · obtain ⟨begun, known, keyed, names⟩ := named.held active
      obtain ⟨same, stored, -, since⟩ := sound.held active
      obtain rfl : begun = same := Option.some.inj (known.symm.trans stored)
      simp only [after, Operation.perform, Drawing.rollback?_of_grown since]
      exact ⟨keyed.restore names, fun impossible => by cases impossible⟩
    · have idle : session.active = false := by simpa using active
      simpa [after, Operation.perform, sound.rollback?_idle idle] using named

theorem named_run {session : Session α} (sound : session.Sound) (named : session.Named)
    {operations : List (Operation α)} (keeps : ∀ operation ∈ operations, operation.KeepsNames) :
    (session.run operations).Named := by
  induction operations generalizing session with
  | nil => exact named
  | cons operation rest ih =>
    obtain ⟨first, others⟩ := List.forall_mem_cons.mp keeps
    exact ih (sound_after sound operation) (named_after sound named first) others

end Session

/-- A drawing that was made from a new one by calls of which none renames a layer. -/
def Drawing.Built (drawing : Drawing α) : Prop :=
  ∃ name units scale color operations,
    (∀ operation ∈ operations, Operation.KeepsNames operation) ∧
      ((Session.fresh name units scale color).run operations).drawing = drawing

namespace Drawing.Built

theorem keyed {drawing : Drawing α} (built : drawing.Built) : drawing.layers.Keyed := by
  obtain ⟨name, units, scale, color, operations, keeps, rfl⟩ := built
  have start : (Session.fresh name units scale color).Named :=
    ⟨Layers.keyed_initial, fun active => by cases active⟩
  exact (Session.named_run (Session.sound_fresh name units scale color) start keeps).keyed

end Drawing.Built

end DrawingPlan
