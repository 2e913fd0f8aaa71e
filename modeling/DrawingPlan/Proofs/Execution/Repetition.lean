import DrawingPlan.Proofs.Drawing.LayerTable
import DrawingPlan.Proofs.Drawing.Verdicts
import DrawingPlan.Proofs.Execution.Effects

set_option autoImplicit false

namespace DrawingPlan

variable {α : Type} [Scalar α]

/-- What a filter needs for its verdict is in the geometry, which it found in what it accepted. -/
theorem Filter.verdict_of_accepted {filter : Option (Filter α)} {entity later : Entity α}
    (accepted : acceptsAny filter entity = .ok true) (same : later.geometry = entity.geometry) :
    ∃ verdict, acceptsAny filter later = .ok verdict := by
  cases filter with
  | none => exact ⟨true, rfl⟩
  | some filter =>
    obtain ⟨-, ofKind, placed⟩ := accepts_iff.mp accepted
    have judged : filter.Judges later := by
      refine ⟨fun asked => ?_, fun windowed => ?_⟩
      · obtain ⟨name, set⟩ := Option.isSome_iff_exists.mp asked
        obtain ⟨kind, found, -⟩ := acceptsKind_iff.mp ofKind name set
        obtain ⟨geometry, shape, -⟩ := Option.map_eq_some_iff.mp found
        rw [same, shape, Option.isSome_some]
      · obtain ⟨box, built, -⟩ := (acceptsPlace_iff windowed).mp placed
        exact ⟨some box, by rwa [Entity.box, same]⟩
    exact judged.verdict

namespace Drawing

variable {edit : Entity α → Except Fault (Entity α)} {before after last : Drawing α}
  {places again : List Nat}

omit [Scalar α] in
theorem EditedAt.eq_of_repeated
    (settled : ∀ entity later, edit entity = .ok later → edit later = .ok later)
    (first : before.EditedAt edit places after) (fewer : again ⊆ places)
    (second : after.EditedAt edit again last) : last = after := by
  have entities : last.entities = after.entities := by
    refine List.ext_getElem? fun place => ?_
    by_cases listed : place ∈ again
    · cases found : after.entities[place]? with
      | none =>
        rw [List.getElem?_eq_none_iff] at found ⊢
        rwa [second.length]
      | some entity =>
        -- What stands there was made by the edit already.
        obtain ⟨origin, -, ⟨-, made⟩ | ⟨unlisted, -⟩⟩ := first.origin found
        · obtain ⟨later, changed, there⟩ := second.edited place listed entity found
          rw [settled origin entity made, Except.ok.injEq] at changed
          rw [there, changed]
        · exact absurd (fewer listed) unlisted
    · exact second.others place listed
  rw [second.frame, entities]

theorem select_again {filter : Option (Filter α)} {prepared : Drawing α}
    (keeps : ∀ entity later, edit entity = .ok later → later.geometry = entity.geometry)
    (selected : before.select filter = .ok places) (same : prepared.entities = before.entities)
    (edited : prepared.EditedAt edit places after) :
    ∃ again, after.select filter = .ok again ∧ again ⊆ places := by
  have judged := select_ok_iff.mp ⟨places, selected⟩
  obtain ⟨chosen, all⟩ := selected_of_judged judged
  cases selected.symm.trans all.select
  have origin {place : Nat} {later : Entity α} (found : after.entities[place]? = some later) :
      ∃ entity, before.entities[place]? = some entity ∧
        (Filter.Picks filter entity ∧ edit entity = .ok later ∨ later = entity) := by
    obtain ⟨entity, there, ⟨listed, made⟩ | ⟨-, rfl⟩⟩ := edited.origin found
    · rw [same] at there
      obtain ⟨held, inside, picked⟩ := (all.mem_iff place).mp listed
      cases there.symm.trans inside
      exact ⟨entity, there, .inl ⟨picked, made⟩⟩
    · exact ⟨later, same ▸ there, .inr rfl⟩
  have judgedAfter (later : Entity α) (listed : later ∈ after.liveEntities) :
      ∃ verdict, Filter.acceptsAny filter later = .ok verdict := by
    obtain ⟨member, live⟩ := List.mem_filter.mp listed
    obtain ⟨place, found⟩ := List.mem_iff_getElem?.mp member
    obtain ⟨entity, there, ⟨⟨-, accepted⟩, made⟩ | rfl⟩ := origin found
    · exact Filter.verdict_of_accepted accepted (keeps entity later made)
    · exact judged later (List.mem_filter.mpr ⟨List.mem_of_getElem? there, live⟩)
  obtain ⟨again, more⟩ := selected_of_judged judgedAfter
  refine ⟨again, more.select, fun place listed => ?_⟩
  obtain ⟨later, found, picked⟩ := (more.mem_iff place).mp listed
  obtain ⟨entity, there, ⟨pickedBefore, -⟩ | rfl⟩ := origin found
  · exact (all.mem_iff place).mpr ⟨entity, there, pickedBefore⟩
  · exact (all.mem_iff place).mpr ⟨later, there, picked⟩

theorem select_nil_of_erased {filter : Option (Filter α)}
    (erases : ∀ entity later, edit entity = .ok later → later.deleted = true)
    (edited : before.EditedAt edit places after) (selected : after.select filter = .ok again)
    (fewer : again ⊆ places) : again = [] := by
  refine List.eq_nil_iff_forall_not_mem.mpr fun place listed => ?_
  obtain ⟨entity, found, live⟩ := live_of_select selected listed
  obtain ⟨origin, -, ⟨-, made⟩ | ⟨unlisted, -⟩⟩ := edited.origin found
  · rw [erases origin entity made] at live
    cases live
  · exact unlisted (fewer listed)

end Drawing

namespace Action

structure Settling (action : Action α) : Prop where
  edits : action.layer? = none
  keeps : ∀ entity later, action.edit entity = .ok later → later.geometry = entity.geometry
  settled : ∀ entity later, action.edit entity = .ok later → action.edit later = .ok later
  answers : ∀ (drawing : Drawing α) places, drawing.select action.filter? = .ok places →
    ∃ answer, (action.perform drawing).answer = .ok answer

theorem settling_erase (action : Erase α) : (Action.erase action).Settling where
  edits := rfl
  keeps entity later made := by
    cases made
    rfl
  settled entity later made := by
    cases made
    rfl
  answers drawing places selected := by
    simp only [filter?] at selected
    simp only [perform, Erase.perform, Reply.selecting, selected]
    exact ⟨_, rfl⟩

theorem settling_changeLayer (action : ChangeLayer α) : (Action.changeLayer action).Settling where
  edits := rfl
  keeps entity later made := by
    cases made
    rfl
  settled entity later made := by
    cases made
    simp only [edit]
    cases action.targetLayer.filter Text.nonEmpty <;> rfl
  answers drawing places selected := by
    simp only [filter?] at selected
    simp only [perform, ChangeLayer.perform, Reply.selecting, selected]
    cases action.targetLayer.filter Text.nonEmpty with
    | none => exact ⟨_, rfl⟩
    | some layer => cases places <;> exact ⟨_, rfl⟩

theorem settling_changeProperties (action : ChangeProperties α) :
    (Action.changeProperties action).Settling where
  edits := rfl
  keeps entity later made := by
    cases made
    rfl
  settled entity later made := by
    cases made
    simp only [edit, ChangeProperties.apply]
    cases action.color <;> cases action.linetype <;> cases action.linetypeScale <;> rfl
  answers drawing places selected := by
    simp only [filter?] at selected
    simp only [perform, ChangeProperties.perform, Reply.selecting, selected]
    split <;> exact ⟨_, rfl⟩

theorem settling_of_kind {action : Action α}
    (listed : action.kind ∈ [ActionKind.erase, .changeLayer, .changeProperties]) :
    action.Settling := by
  cases action with
  | erase action => exact settling_erase action
  | changeLayer action => exact settling_changeLayer action
  | changeProperties action => exact settling_changeProperties action
  | _ => simp [kind] at listed

theorem Settling.effect {action : Action α} (settling : action.Settling)
    {before after : Drawing α} {answer : Json} (effect : action.Effect before after answer) :
    after = before ∧ answer.Tells none (some 0) ∨
      ∃ places, before.select action.filter? = .ok places ∧
        (action.prepare places before).EditedAt action.edit places after ∧
        answer.Tells none (some places.length) := by
  cases effect with
  | placed drawn tells =>
    have draws := layer?_of_drawsOn? drawn
    rw [settling.edits] at draws
    cases draws
  | blockless creates missing tells =>
    rw [settling.edits] at creates
    cases creates
  | needless edits aimless tells => exact .inl ⟨rfl, tells⟩
  | edited edits selected edited tells => exact .inr ⟨_, selected, edited, tells⟩

omit [Scalar α] in
theorem prepare_again {action : Action α} {before after : Drawing α} {places again : List Nat}
    (layers : after.layers = (action.prepare places before).layers) (fewer : again ⊆ places) :
    action.prepare again after = after := by
  cases sends : action.target? with
  | none => exact prepare_of_aimless sends again after
  | some layer =>
    cases again with
    | nil => exact action.prepare_nil after
    | cons place rest =>
      have selected : places ≠ [] := List.ne_nil_of_mem (fewer List.mem_cons_self)
      rw [prepare_of_target sends selected] at layers
      have known : after.layers.has layer = true := by
        rw [layers, Drawing.ensureLayer, Layers.has_ensure, beq_self_eq_true, Bool.or_true]
      rw [prepare_of_target sends (List.cons_ne_nil place rest), Drawing.ensureLayer,
        Layers.ensure_of_has known]

/--
Of these actions a second one, right after the first, does not fail and changes nothing; when it
erases, it finds nothing to erase.
-/
theorem perform_idempotent {action : Action α}
    (listed : action.kind ∈ [ActionKind.erase, .changeLayer, .changeProperties])
    {drawing : Drawing α} {answer : Json}
    (answered : (action.perform drawing).answer = .ok answer) :
    ∃ again, (action.perform (action.perform drawing).drawing).answer = .ok again ∧
      (action.perform (action.perform drawing).drawing).drawing =
        (action.perform drawing).drawing ∧
      (action.kind = .erase → again.field? "affected" = some (.integer 0)) := by
  have settling := settling_of_kind listed
  have effect := action.effect_perform drawing answered
  generalize reached : (action.perform drawing).drawing = after at effect ⊢
  obtain ⟨rfl, tells⟩ | ⟨places, selected, edited, tells⟩ := settling.effect effect
  · exact ⟨answer, answered, reached, fun _ => tells.affected⟩
  -- An entity that got another layer may fall out of the selection, and none comes into it.
  obtain ⟨again, more, fewer⟩ := Drawing.select_again settling.keeps selected
    (action.prepare_entities places drawing) edited
  obtain ⟨answerToo, answeredToo⟩ := settling.answers after again more
  refine ⟨answerToo, answeredToo, ?_⟩
  obtain ⟨same, tells⟩ | ⟨repeated, chosen, editedToo, tells⟩ :=
    settling.effect (action.effect_perform after answeredToo)
  · exact ⟨same, fun _ => tells.affected⟩
  cases more.symm.trans chosen
  have layers : after.layers = (action.prepare places drawing).layers := by rw [edited.frame]
  rw [prepare_again layers fewer] at editedToo
  refine ⟨edited.eq_of_repeated settling.settled fewer editedToo, fun erases => ?_⟩
  cases action with
  | erase action =>
    have none : again = [] := Drawing.select_nil_of_erased
      (fun entity later made => by cases made; rfl) edited more fewer
    rw [tells.affected, none]
    rfl
  | _ => cases erases

theorem perform_idempotent_of_respelled_layer :
    let circle : Entity Float := { geometry := some (.circle ⟨5, 5⟩ 1), layer := "Wire" }
    let drawing : Drawing Float :=
      { (Drawing.empty : Drawing Float) with
        entities := [circle, { geometry := none }, { circle with deleted := true }] }
    let filter : Filter Float :=
      { layer := some "wire", kind := some "circle", crossing := some (⟨9, 9⟩, ⟨6, 2⟩) }
    let action : Action Float := .changeLayer ⟨some filter, some "wire"⟩
    let answer : Json := .object [("ok", .bool true), ("affected", .integer 1)]
    let after := (action.perform drawing).drawing
    action.kind ∈ [ActionKind.erase, .changeLayer, .changeProperties] ∧
      (action.perform drawing).answer = .ok answer ∧
      drawing.layers.has "wire" = false ∧ after.layers.has "wire" = true ∧
      after.select action.filter? = .ok [0] ∧ (action.perform after).drawing = after := by
  intro circle drawing filter action answer after
  have listed : action.kind ∈ [ActionKind.erase, .changeLayer, .changeProperties] := by decide
  have selected : drawing.select (some filter) = .ok [0] := by decide +kernel
  have target : (some ("wire" : Text)).filter Text.nonEmpty = some "wire" := by decide
  have answered : (action.perform drawing).answer = .ok answer := by
    simp only [action, perform, ChangeLayer.perform, Reply.selecting, target, selected]
    rfl
  obtain ⟨again, -, same, -⟩ := perform_idempotent listed answered
  exact ⟨listed, answered, by decide +kernel, by decide +kernel, by decide +kernel, same⟩

end Action

end DrawingPlan
