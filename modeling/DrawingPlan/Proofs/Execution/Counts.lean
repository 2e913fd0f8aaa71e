import DrawingPlan.Proofs.Execution.Effects
import DrawingPlan.Proofs.Execution.Entities
import DrawingPlan.Proofs.Execution.Sequence
import Mathlib.Algebra.Order.Ring.Int

set_option autoImplicit false

namespace DrawingPlan

variable {α : Type}

namespace HistoryEntry

def created : HistoryEntry → Int
  | .done _ answer => answer.count "created"
  | .failed .. => 0

def erased : HistoryEntry → Int
  | .done .erase answer => answer.count "affected"
  | _ => 0

theorem erased_of_other {kind : ActionKind} {answer : Json}
    (other : kind ≠ .erase ∨ answer.count "affected" = 0) : (done kind answer).erased = 0 := by
  cases kind <;> simp_all [erased]

end HistoryEntry

namespace Drawing

structure Balances (before after : Drawing α) (created erased : Int) : Prop where
  listed : (after.entities.length : Int) = before.entities.length + created
  live : (after.liveEntities.length : Int) = before.liveEntities.length + created - erased

theorem Balances.refl (drawing : Drawing α) : drawing.Balances drawing 0 0 :=
  ⟨by omega, by omega⟩

theorem Balances.trans {first second third : Drawing α} {created later erased gone : Int}
    (early : first.Balances second created erased) (late : second.Balances third later gone) :
    first.Balances third (created + later) (erased + gone) where
  listed := by
    have one := early.listed
    have two := late.listed
    omega
  live := by
    have one := early.live
    have two := late.live
    omega

theorem balances_place (drawing : Drawing α) (geometry : Geometry α) (layer : Text) :
    drawing.Balances (drawing.place geometry layer) 1 0 where
  listed := by simp [place, append, ensureLayer]
  live := by simp [place, append, ensureLayer, liveEntities]

section Edited

variable {edit : Entity α → Except Fault (Entity α)} {places : List Nat} {before after : Drawing α}

theorem EditedAt.mem_liveIndexes_of_mem (edited : before.EditedAt edit places after)
    {place : Nat} (member : place ∈ places) {entity : Entity α}
    (found : before.entities[place]? = some entity) :
    ∃ later, edit entity = .ok later ∧
      (place ∈ after.liveIndexes ↔ later.deleted = false) := by
  obtain ⟨later, made, there⟩ := edited.edited place member entity found
  exact ⟨later, made, by simp [mem_liveIndexes, there]⟩

theorem EditedAt.length_live_of_kept (edited : before.EditedAt edit places after)
    (kept : ∀ entity later, edit entity = .ok later → later.deleted = entity.deleted) :
    after.liveEntities.length = before.liveEntities.length := by
  have same (place : Nat) : place ∈ after.liveIndexes ↔ place ∈ before.liveIndexes := by
    by_cases member : place ∈ places
    · cases found : before.entities[place]? with
      | none =>
        have outside : after.entities[place]? = none := by
          have length := edited.length
          rw [List.getElem?_eq_none_iff] at found ⊢
          omega
        simp [mem_liveIndexes, found, outside]
      | some entity =>
        obtain ⟨later, made, live⟩ := edited.mem_liveIndexes_of_mem member found
        simp [live, mem_liveIndexes, found, kept entity later made]
    · simp [mem_liveIndexes, edited.others place member]
  have perm :=
    (List.perm_ext_iff_of_nodup after.nodup_liveIndexes before.nodup_liveIndexes).mpr same
  simpa only [length_liveIndexes] using perm.length_eq

theorem EditedAt.length_live_of_erased (edited : before.EditedAt edit places after)
    (live : places.Sublist before.liveIndexes)
    (erases : ∀ entity later, edit entity = .ok later → later.deleted = true) :
    before.liveEntities.length = places.length + after.liveEntities.length := by
  have gone : ∀ place ∈ places, place ∉ after.liveIndexes := by
    intro place member
    obtain ⟨entity, found, -⟩ := mem_liveIndexes.mp (live.subset member)
    obtain ⟨later, made, stays⟩ := edited.mem_liveIndexes_of_mem member found
    simp [stays, erases entity later made]
  have same (place : Nat) : place ∈ before.liveIndexes ↔ place ∈ places ++ after.liveIndexes := by
    by_cases member : place ∈ places
    · simp [member, live.subset member]
    · simp [member, mem_liveIndexes, edited.others place member]
  have distinct : (places ++ after.liveIndexes).Nodup := by
    refine List.nodup_append.mpr ⟨live.nodup before.nodup_liveIndexes, after.nodup_liveIndexes, ?_⟩
    intro place member other there equal
    exact gone place member (equal ▸ there)
  have perm := (List.perm_ext_iff_of_nodup before.nodup_liveIndexes distinct).mpr same
  simpa only [length_liveIndexes, List.length_append] using perm.length_eq

end Edited

end Drawing

structure Json.Credible (answer : Json) (action : Action α) (given : Drawing α) : Prop where
  created : ∀ value, answer.field? "created" = some value → value = .integer 0 ∨ value = .integer 1
  affected : ∀ value, answer.field? "affected" = some value →
    ∃ count : Nat, value = .integer count ∧ count ≤ given.liveEntities.length
  creates : (answer.field? "created").isSome = action.layer?.isSome
  edits : (answer.field? "affected").isSome = action.layer?.isNone

namespace Json.Tells

variable {answer : Json} {action : Action α} {given : Drawing α}

theorem credible_of_creation {count : Int} (tells : answer.Tells (some count) none)
    (single : count = 0 ∨ count = 1) (creates : action.layer?.isSome) :
    answer.Credible action given where
  created value told := by
    rw [tells.created] at told
    cases told
    exact single.imp (congrArg _) (congrArg _)
  affected value told := by
    rw [tells.affected] at told
    cases told
  creates := by rw [tells.created, creates]; rfl
  edits := by rw [tells.affected, ← Option.not_isSome, creates]; rfl

theorem credible_of_edit {count : Nat} (tells : answer.Tells none (some count))
    (edits : action.layer? = none) (bound : count ≤ given.liveEntities.length) :
    answer.Credible action given where
  created value told := by
    rw [tells.created] at told
    cases told
  affected value told := by
    rw [tells.affected] at told
    cases told
    exact ⟨count, rfl, bound⟩
  creates := by rw [tells.created, edits]; rfl
  edits := by rw [tells.affected, edits]; rfl

end Json.Tells

variable [Scalar α]

namespace Action

theorem deleted_of_edit {action : Action α} {entity later : Entity α}
    (edited : action.edit entity = .ok later) :
    later.deleted = (decide (action.kind = .erase) || entity.deleted) := by
  cases action with
  | move action | rotate action | scale action =>
    obtain ⟨geometry, placed, -, -, rfl⟩ := Entity.transform_ok edited
    rfl
  | _ =>
    cases edited
    rfl

omit [Scalar α] in
theorem prepare_liveIndexes (action : Action α) (places : List Nat) (drawing : Drawing α) :
    (action.prepare places drawing).liveIndexes = drawing.liveIndexes := by
  simp only [Drawing.liveIndexes, prepare_entities]

end Action

namespace Action.Effect

variable {action : Action α} {before after : Drawing α} {answer : Json}

theorem balances (effect : action.Effect before after answer) :
    before.Balances after (HistoryEntry.done action.kind answer).created
      (HistoryEntry.done action.kind answer).erased := by
  cases effect with
  | placed drawn tells =>
    rw [HistoryEntry.erased_of_other (.inr tells.count_affected), HistoryEntry.created,
      tells.count_created]
    exact before.balances_place _ _
  | blockless creates missing tells =>
    rw [HistoryEntry.erased_of_other (.inr tells.count_affected), HistoryEntry.created,
      tells.count_created]
    exact .refl before
  | needless edits aimless tells =>
    rw [HistoryEntry.erased_of_other (.inr tells.count_affected), HistoryEntry.created,
      tells.count_created]
    exact .refl before
  | @edited places _ _ edits selected edited tells =>
    have start :
        (action.prepare places before).liveEntities.length = before.liveEntities.length := by
      rw [← Drawing.length_liveIndexes, prepare_liveIndexes, Drawing.length_liveIndexes]
    have length : after.entities.length = before.entities.length := by
      rw [edited.length, prepare_entities]
    rw [HistoryEntry.created, tells.count_created]
    by_cases erases : action.kind = .erase
    · have gone := edited.length_live_of_erased
        (by rw [prepare_liveIndexes]; exact Drawing.select_sublist selected)
        (fun entity later made => by simp [deleted_of_edit made, erases])
      have told : (HistoryEntry.done action.kind answer).erased = places.length := by
        rw [erases, HistoryEntry.erased, tells.count_affected]
        rfl
      rw [told]
      exact ⟨by simp [length], by simp; omega⟩
    · have kept := edited.length_live_of_kept
        (fun entity later made => by simp [deleted_of_edit made, erases])
      rw [HistoryEntry.erased_of_other (.inl erases)]
      exact ⟨by simp [length], by simp; omega⟩

theorem credible (effect : action.Effect before after answer) :
    answer.Credible action before := by
  cases effect with
  | placed drawn tells =>
    exact tells.credible_of_creation (.inr rfl) (by simp [layer?_of_drawsOn? drawn])
  | blockless creates missing tells => exact tells.credible_of_creation (.inl rfl) creates
  | needless edits aimless tells => exact tells.credible_of_edit edits (Nat.zero_le _)
  | edited edits selected edited tells =>
    exact tells.credible_of_edit edits (Drawing.length_of_select selected)

end Action.Effect

theorem Served.balances {drawing reached : Drawing α} {services : List (Service α)}
    (served : Served .standard drawing services .standard reached) :
    drawing.Balances reached (services.map fun service => service.entry.created).sum
      (services.map fun service => service.entry.erased).sum := by
  have replies := served.replies
  obtain ⟨chained, -⟩ := served
  induction chained with
  | nil drawing => exact .refl drawing
  | @cons service rest reached _ _ ih =>
    obtain ⟨own, others⟩ := List.forall_mem_cons.mp replies
    have first : service.given.Balances service.left service.entry.created service.entry.erased :=
      (Service.effect own).balances
    have later := ih others
    simpa only [List.map_cons, List.sum_cons] using first.trans later

namespace Plan

theorem run_counts_add_up {plan : Plan α} {drawing : Drawing α}
    (done : (plan.run .standard drawing).2 = .ok ()) :
    let ended := (plan.run .standard drawing).1
    drawing.Balances ended.drawing (ended.history.map HistoryEntry.created).sum
        (ended.history.map HistoryEntry.erased).sum ∧
      ∃ services, CompletedBy plan drawing services ∧
        ∀ service ∈ services, service.answer.Credible service.action service.given := by
  intro ended
  obtain ⟨services, completed⟩ := completedBy_of_ok done
  obtain ⟨reached, served, same⟩ := completed.served
  have balances := served.balances
  refine ⟨?_, services, completed, fun service member =>
    (Service.effect (served.replies service member)).credible⟩
  simp only [ended, completed.history, same, List.map_map]
  exact ⟨balances.listed, balances.live⟩

theorem run_counts_add_up_of_erased_circle :
    let erased : Entity Float := { geometry := some (.line ⟨0, 0⟩ ⟨1, 1⟩), deleted := true }
    let drawing := (Drawing.empty.append erased).append { erased with deleted := false }
    let circle (layer : Text) : Action Float := .circle ⟨⟨0, 0⟩, 1, layer⟩
    let plan : Plan Float :=
      ⟨[circle "1", .insertBlock .standard, circle "0", .erase ⟨some { layer := some "1" }⟩]⟩
    (plan.run .standard drawing).2 = .ok () ∧
      drawing.Balances (plan.run .standard drawing).1.drawing 2 1 := by
  intro erased drawing circle plan
  have done : (plan.run .standard drawing).2 = .ok () := eq_ok_of_isOk (by decide +kernel)
  have created : ((plan.run .standard drawing).1.history.map HistoryEntry.created).sum = 2 := by
    decide +kernel
  have erased : ((plan.run .standard drawing).1.history.map HistoryEntry.erased).sum = 1 := by
    decide +kernel
  have balances := (run_counts_add_up done).1
  rw [created, erased] at balances
  exact ⟨done, balances⟩

end Plan

end DrawingPlan
