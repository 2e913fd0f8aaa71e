import DrawingPlan.Proofs.Execution.Changes

set_option autoImplicit false

namespace DrawingPlan

variable {α : Type}

namespace Registry

variable {registry after : Registry α} {action : Action α} {drawing : Drawing α}
  {answered : Reply α}

theorem reply?_eq_some (replied : registry.reply? action drawing = some (after, answered)) :
    ∃ handler memory, registry.handler? action.kind = some handler ∧
      after = { registry with memory } ∧
      answered = (handler action registry.memory drawing).2 := by
  obtain ⟨handler, known, same⟩ := Option.map_eq_some_iff.mp replied
  cases same
  exact ⟨handler, _, known, rfl, rfl⟩

theorem depth_of_reply (replied : registry.reply? action drawing = some (after, answered)) :
    after.depth = registry.depth := by
  obtain ⟨handler, memory, -, rfl, -⟩ := reply?_eq_some replied
  rfl

def Orderly (registry : Registry α) : Prop :=
  ∀ kind handler, registry.handler? kind = some handler →
    ∀ action memory drawing, (handler action memory drawing).2.Orderly drawing

theorem Orderly.next (orderly : registry.Orderly)
    (replied : registry.reply? action drawing = some (after, answered)) : after.Orderly := by
  obtain ⟨handler, memory, -, rfl, -⟩ := reply?_eq_some replied
  exact orderly

theorem Orderly.reply (orderly : registry.Orderly)
    (replied : registry.reply? action drawing = some (after, answered)) :
    answered.Orderly drawing := by
  obtain ⟨handler, memory, known, -, rfl⟩ := reply?_eq_some replied
  exact orderly action.kind handler known action registry.memory drawing

theorem standard_reply [Scalar α] (action : Action α) (drawing : Drawing α) :
    Registry.standard.reply? action drawing = some (.standard, action.perform drawing) :=
  rfl

theorem standard_orderly [Scalar α] : (Registry.standard : Registry α).Orderly := by
  intro kind handler known action memory drawing
  obtain rfl := Option.some.inj known
  exact action.orderly_perform drawing

end Registry

namespace Run

structure Orderly (drawing : Drawing α) (ended : Progress α × Except Raised Unit) : Prop where
  reaches : drawing.Reaches Change.Recoverable ended.1.drawing
  errors : ∀ raised, ended.2 = .error raised → ∃ error, raised = .execution error

theorem receive_orderly {drawing : Drawing α} {reply : Reply α} (orderly : reply.Orderly drawing)
    (depth index : Nat) (action : Action α) (progress : Progress α) :
    Orderly drawing (receive depth index action (some reply) progress) := by
  rw [receive]
  cases answered : reply.answer with
  | ok answer =>
    obtain ⟨accepted, text, shown⟩ := orderly.passes answer answered depth
    simp only [settle, accepted, if_true, Progress.take, shown]
    exact ⟨orderly.reaches, fun _ failed => by cases failed⟩
  | error raised =>
    obtain ⟨fault, rfl⟩ := orderly.faults raised answered
    exact ⟨orderly.reaches, fun _ failed => ⟨_, (Except.error.inj failed).symm⟩⟩

variable {registry : Registry α}

theorem step_orderly (orderly : registry.Orderly) (total index : Nat) (action : Action α)
    (progress : Progress α) :
    (step registry total index action progress).1.Orderly ∧
      Orderly progress.drawing (step registry total index action progress).2 := by
  cases replied : registry.reply? action progress.drawing with
  | none =>
    simp only [step, Progress.say, replied]
    exact ⟨orderly, Drawing.Reaches.refl _, fun _ failed => ⟨_, (Except.error.inj failed).symm⟩⟩
  | some answered =>
    obtain ⟨next, reply⟩ := answered
    simp only [step, Progress.say, replied]
    exact ⟨orderly.next replied, receive_orderly (orderly.reply replied) ..⟩

theorem steps_orderly (orderly : registry.Orderly) (total index : Nat) (actions : List (Action α))
    (progress : Progress α) :
    Orderly progress.drawing (steps registry total index progress actions) := by
  induction actions generalizing registry index progress with
  | nil => exact ⟨Drawing.Reaches.refl _, fun _ failed => by cases failed⟩
  | cons action rest ih =>
    obtain ⟨still, first⟩ := step_orderly orderly total index action progress
    rw [steps]
    split
    -- A failed action ends the run; what it did before it failed is part of what is reached.
    next reached raised stopped =>
      rw [stopped] at first
      exact first
    next reached done =>
      rw [done] at first still
      have later := ih still (index + 1) reached
      exact ⟨first.reaches.trans later.reaches, later.errors⟩

theorem close_ok {drawing : Drawing α} {progress : Progress α}
    (grown : drawing.opened.Grown progress.drawing) : (close progress).2 = .ok () := by
  have held : progress.drawing.checkpoint = some drawing.currentCheckpoint := grown.checkpoint
  simp [close, Drawing.commit?, held]

theorem abandon_undoes {drawing : Drawing α} (idle : drawing.checkpoint = none) (raised : Raised)
    {progress : Progress α}
    (reaches : drawing.opened.Reaches Change.Recoverable progress.drawing) :
    (abandon raised progress).1.drawing = { drawing with entities := drawing.copies } ∧
      (abandon raised progress).2 = .error raised := by
  -- The drawing has grown, which makes the checkpoint good for it, and only at the ends of its
  -- lists, which makes the checkpoint all that there was.
  obtain ⟨changes, recoverable, reached⟩ := reaches
  have grown : drawing.opened.Grown progress.drawing := reached ▸ Drawing.grown_changed changes _
  have extended : drawing.opened.Extended progress.drawing :=
    reached ▸ Drawing.extended_changed recoverable _
  simp [abandon, Drawing.rollback?_of_grown grown, Drawing.backTo_of_extended idle extended,
    Progress.say]

end Run

namespace Plan

def attempt (registry : Registry α) (plan : Plan α) (started : Drawing α) :
    Progress α × Except Raised Unit :=
  let total := plan.actions.length
  let opening := "🚀 Executing plan: " ++ toString total ++ " action(s)"
  Run.steps registry total 0 { drawing := started, report := [opening] } plan.actions

theorem attempt_orderly {registry : Registry α} (orderly : registry.Orderly) (plan : Plan α)
    (started : Drawing α) : Run.Orderly started (plan.attempt registry started) :=
  Run.steps_orderly orderly _ 0 plan.actions { drawing := started, report := _ }

theorem run_eq {drawing started : Drawing α} (begun : drawing.begin? = .ok started)
    (registry : Registry α) (plan : Plan α) :
    plan.run registry drawing =
      match plan.attempt registry started with
      | (reached, .ok ()) => Run.close reached
      | (reached, .error raised) => Run.abandon raised reached := by
  simp only [Plan.run, begun]
  rfl

theorem run_cases {registry : Registry α} (orderly : registry.Orderly) (plan : Plan α)
    (drawing : Drawing α) :
    (plan.run registry drawing).2 = .ok () ∨
      ∃ error, (plan.run registry drawing).2 = .error (.execution error) ∧
        drawing.Alike (plan.run registry drawing).1.drawing := by
  cases begun : drawing.begin? with
  | error refusal =>
    right
    exact ⟨.busy refusal, by simp only [Plan.run, begun],
      by simpa only [Plan.run, begun] using .refl drawing⟩
  | ok started =>
    rw [run_eq begun]
    obtain ⟨idle, rfl⟩ := Drawing.begin?_eq_ok_iff.mp begun
    have free : drawing.checkpoint = none := by simpa [Drawing.inTransaction] using idle
    have ended : Run.Orderly drawing.opened (plan.attempt registry drawing.opened) :=
      plan.attempt_orderly orderly drawing.opened
    split
    next reached done =>
      rw [done] at ended
      obtain ⟨changes, -, same⟩ := ended.reaches
      have grown : drawing.opened.Grown reached.drawing := same ▸ Drawing.grown_changed changes _
      left
      exact Run.close_ok grown
    next reached raised stopped =>
      rw [stopped] at ended
      obtain ⟨error, rfl⟩ := ended.errors raised rfl
      obtain ⟨undone, failed⟩ := Run.abandon_undoes free (.execution error) ended.reaches
      right
      exact ⟨error, failed, undone ▸ drawing.alike_copies⟩

end Plan

namespace Drawing

theorem rollback_keeps_tables_iff {ε β : Type} {drawing started : Drawing α}
    (reachable : drawing.Reachable) (begun : drawing.begin? = .ok started)
    (changes : List (Change α)) (failure : ε) :
    ∃ ended, (started.changed changes).rollback? = .ok ended ∧
      (drawing.transact fun opened =>
        (opened.changed changes, (.error failure : Except ε β))).1 = ended ∧
      (∀ (registry : Registry α) (plan : Plan α) reached raised,
        plan.attempt registry started = (reached, .error raised) →
        reached.drawing = started.changed changes →
        (plan.run registry drawing).1.drawing = ended) ∧
      (drawing.SameTables ended ↔ drawing.LeftBy changes) := by
  have run := Plan.run_eq begun
  obtain ⟨idle, rfl⟩ := begin?_eq_ok_iff.mp begun
  have undone := rollback?_of_grown (grown_changed changes drawing.opened)
  refine ⟨_, undone, ?_, ?_, ?_⟩
  · rw [transact_changed idle]
  · intro registry plan reached raised stopped same
    rw [run, stopped]
    simp only [Run.abandon, same, undone, Progress.say]
  · exact sameTables_backTo_iff reachable.listed reachable.distinct changes

theorem rollback_keeps_tables_of_undone_edit :
    ∃ ended, ((Drawing.empty : Drawing Float).opened.changed
        [.editRecord 0 fun layer => { layer with off := true }, .ensureLayer "WIRE",
          .editRecord 0 fun layer => { layer with off := false }]).rollback? = .ok ended ∧
      (Drawing.empty : Drawing Float).SameTables ended := by
  have reachable : (Drawing.empty : Drawing Float).Reachable :=
    ⟨"*Model_Space", 4, 1, 256, [], rfl⟩
  obtain ⟨ended, undone, -, -, same⟩ := rollback_keeps_tables_iff (ε := Unit) (β := Unit)
    reachable rfl
    [.editRecord 0 fun layer => { layer with off := true }, .ensureLayer "WIRE",
      .editRecord 0 fun layer => { layer with off := false }] ()
  refine ⟨ended, undone, same.mpr ⟨?_, ?_⟩⟩
  · intro number member layer found
    obtain rfl : number = 0 := List.mem_singleton.mp member
    obtain rfl : layer = { name := defaultLayer } := (Option.some.inj found).symm
    rfl
  · intro key definition last
    cases last

/-- A layer that was switched off stays off, and a block that was added stays. -/
theorem rollback_keeps_layer_edit_and_block :
    ∃ ended, ((Drawing.empty : Drawing Float).opened.changed
        [.editRecord 0 fun layer => { layer with off := true },
          .addBlock ⟨"PUMP", ⟨0, 0⟩, [], [], 0⟩]).rollback? = .ok ended ∧
      ended.layers.toList ≠ (Drawing.empty : Drawing Float).layers.toList ∧
      ended.blocks.content ≠ (Drawing.empty : Drawing Float).blocks.content ∧
      ¬(Drawing.empty : Drawing Float).SameTables ended := by
  refine ⟨_, rfl, by decide, ?_, ?_⟩
  · intro same
    cases same
  · intro same
    cases same.blocks

end Drawing

end DrawingPlan
