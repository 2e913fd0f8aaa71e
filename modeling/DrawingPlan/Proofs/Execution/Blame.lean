import DrawingPlan.Proofs.Execution.Outcome

set_option autoImplicit false

namespace DrawingPlan

variable {α : Type}

namespace HistoryEntry

def kind : HistoryEntry → ActionKind
  | .done kind _ | .failed kind _ => kind

def ok : HistoryEntry → Bool
  | .done .. => true
  | .failed .. => false

end HistoryEntry

structure ExecutionError.Names (error : ExecutionError) (index : Nat) (kind : ActionKind) :
    Prop where
  index : error.index? = some (index : Int)
  action : error.action? = some (kind.name : Text)

structure Recorded (history : List HistoryEntry) (index : Nat) (kind : ActionKind) : Prop where
  length : history.length = index + 1
  done : ∀ entry ∈ history.take index, entry.ok = true
  failed : ∃ entry, history[index]? = some entry ∧ entry.ok = false ∧ entry.kind = kind

theorem recorded_append_iff {services : List (Service α)} {entries : List HistoryEntry}
    {kind : ActionKind} : Recorded (services.map Service.entry ++ entries) services.length kind ↔
      ∃ entry, entries = [entry] ∧ entry.ok = false ∧ entry.kind = kind := by
  constructor
  · intro recorded
    have single : entries.length = 1 := by
      have length := recorded.length
      rw [List.length_append, List.length_map] at length
      omega
    obtain ⟨entry, rfl⟩ := List.length_eq_one_iff.mp single
    obtain ⟨last, found, failed, same⟩ := recorded.failed
    obtain rfl : entry = last := by simpa using found
    exact ⟨entry, rfl, failed, same⟩
  · rintro ⟨entry, rfl, failed, same⟩
    refine ⟨by simp, fun early member => ?_, entry, by simp, failed, same⟩
    obtain ⟨service, -, rfl⟩ : ∃ service ∈ services, service.entry = early := by
      simpa using member
    rfl

def Reply.raised? (reply : Reply α) : Option Raised :=
  match reply.answer with
  | .ok _ => none
  | .error raised => some raised

def Halt.raised? (halt : Halt α) : Option Raised :=
  halt.reply.bind Reply.raised?

def Halt.blamed? (halt : Halt α) : Option Fault :=
  halt.raised?.bind Raised.blamed?

namespace Stops

variable {depth index : Nat} {action : Action α} {given left : Drawing α}
  {reply : Option (Reply α)} {entries : List HistoryEntry}

theorem entries_eq {raised : Raised}
    (stops : Stops depth index action given reply left entries raised) :
    entries = (((reply.bind Reply.raised?).bind Raised.blamed?).map fun cause =>
      HistoryEntry.failed action.kind cause.message).toList := by
  cases stops with
  | unknown => rfl
  | rejected | unshown => rfl
  | failed left notes blamed => simp [Reply.raised?, blamed]
  | passed left notes unblamed => simp [Reply.raised?, unblamed]

theorem names {error : ExecutionError}
    (stops : Stops depth index action given reply left entries (.execution error)) :
    error.Names index action.kind ∨ reply.bind Reply.raised? = some (.execution error) := by
  cases stops with
  | unknown => exact .inl ⟨rfl, rfl⟩
  | rejected => exact .inl ⟨rfl, rfl⟩
  | failed left notes blamed => exact .inl ⟨rfl, rfl⟩
  | passed left notes unblamed => exact .inr rfl

end Stops

namespace Plan

structure FailedAt (registry : Registry α) (plan : Plan α) (drawing : Drawing α) (halt : Halt α)
    (error : ExecutionError) : Prop where
  idle : drawing.inTransaction = false
  halted : Halted registry drawing.opened plan.actions halt
  raised : halt.raised = .execution error
  names : error.Names halt.services.length halt.action.kind ∨
    halt.raised? = some (.execution error)
  entries : halt.entries = (halt.blamed?.map fun cause =>
    HistoryEntry.failed halt.action.kind cause.message).toList
  history : (plan.run registry drawing).1.history =
    halt.services.map Service.entry ++ halt.entries

variable {registry : Registry α} {plan : Plan α} {drawing : Drawing α} {error : ExecutionError}

theorem failedAt_of_error (idle : drawing.inTransaction = false)
    (failed : (plan.run registry drawing).2 = .error (.execution error)) :
    ∃ halt, FailedAt registry plan drawing halt error := by
  rcases registry.course drawing.opened plan.actions with
    ⟨services, last, reached, served, same⟩ | ⟨halt, halted⟩
  -- Where all actions are served only the commit can fail, and that is no failure of an action.
  · obtain ⟨after, attempted, -⟩ := attempt_of_served served same
    simp only [run_eq_attempt idle, attempted, Run.close] at failed
    split at failed <;> cases failed
  · obtain ⟨after, -, history, attempted⟩ := attempt_of_halted halted
    have run : plan.run registry drawing = Run.abandon halt.raised after := by
      simp only [run_eq_attempt idle, attempted registry rfl halted.asked]
    rw [run, Run.abandon] at failed
    have raised : halt.raised = .execution error := by
      split at failed
      · cases failed
      · exact Except.error.inj failed
    refine ⟨halt, idle, halted, raised, ?_, halted.stops.entries_eq, ?_⟩
    · have stops := halted.stops
      rw [raised] at stops
      exact stops.names
    · rw [run, Run.abandon, ← history]
      split <;> rfl

theorem FailedAt.recorded_iff {halt : Halt α}
    (failed : FailedAt registry plan drawing halt error) :
    error.Names halt.services.length halt.action.kind ∧
        Recorded (plan.run registry drawing).1.history halt.services.length halt.action.kind ↔
      halt.blamed?.isSome := by
  rw [failed.history, recorded_append_iff, failed.entries]
  cases blamed : halt.blamed? with
  | none => simp
  | some cause =>
    -- An error of the handler's own is not blamed on the action.
    have named : error.Names halt.services.length halt.action.kind := by
      refine failed.names.resolve_right fun own => ?_
      rw [Halt.blamed?, own] at blamed
      cases blamed
    simp [named, HistoryEntry.ok, HistoryEntry.kind]

theorem FailedAt.blamed_of_standard [Scalar α] {halt : Halt α}
    (failed : FailedAt .standard plan drawing halt error) : halt.blamed?.isSome := by
  have replied := failed.halted.asked.of_standard
  have stops := failed.halted.stops
  rw [replied] at stops
  obtain ⟨cause, answered, -⟩ := stops.of_standard
  have raised : halt.raised? = some (.fault cause) := by
    rw [Halt.raised?, replied, Option.bind_some, Reply.raised?, answered]
  rw [Halt.blamed?, raised]
  rfl

theorem FailedAt.recorded_of_standard [Scalar α] {halt : Halt α}
    (failed : FailedAt .standard plan drawing halt error) :
    error.Names halt.services.length halt.action.kind ∧
      Recorded (plan.run .standard drawing).1.history halt.services.length halt.action.kind :=
  failed.recorded_iff.mpr failed.blamed_of_standard

theorem run_blames (failed : (plan.run registry drawing).2 = .error (.execution error)) :
    Refused registry plan drawing ∨
      ∃ halt, FailedAt registry plan drawing halt error ∧
        (error.Names halt.services.length halt.action.kind ∧
            Recorded (plan.run registry drawing).1.history halt.services.length
              halt.action.kind ↔
          halt.blamed?.isSome) := by
  cases active : drawing.inTransaction with
  | true => exact .inl (refused_of_active active)
  | false =>
    obtain ⟨halt, stopped⟩ := failedAt_of_error active failed
    exact .inr ⟨halt, stopped, stopped.recorded_iff⟩

theorem run_blames_failed_move :
    let drawing : Drawing Float := Drawing.empty.append { geometry := none }
    let plan : Plan Float := ⟨[.circle .standard, .move .standard]⟩
    ∃ error halt, (plan.run .standard drawing).2 = .error (.execution error) ∧
      FailedAt .standard plan drawing halt error ∧
      Recorded (plan.run .standard drawing).1.history halt.services.length halt.action.kind := by
  intro drawing plan
  obtain ⟨error, failed⟩ : ∃ error, (plan.run .standard drawing).2 = .error (.execution error) :=
    ⟨_, rfl⟩
  rcases run_blames failed with refused | ⟨halt, stopped, recorded⟩
  · have active := refused.active
    cases active
  · exact ⟨error, halt, failed, stopped, (recorded.mpr stopped.blamed_of_standard).2⟩

/-- There is no handler, or its answer is no object, or it raises an error that names nothing. -/
theorem run_leaves_failure_unrecorded :
    let plan : Plan Float := ⟨[.circle .standard]⟩
    let missing : Registry Float := .ofHandlers fun _ => none
    let silent : Registry Float :=
      .ofHandlers fun _ => some fun _ drawing => ⟨drawing, [], .ok .null⟩
    let givingUp : Registry Float := .ofHandlers fun _ => some fun _ drawing =>
      ⟨drawing, [], .error (.execution (.declared "gave up"))⟩
    (∀ registry ∈ [missing, silent, givingUp],
      (∃ error, (plan.run registry Drawing.empty).2 = .error (.execution error)) ∧
        ¬Recorded (plan.run registry Drawing.empty).1.history 0 .circle) ∧
      ∃ error, (plan.run givingUp Drawing.empty).2 = .error (.execution error) ∧
        ¬error.Names 0 .circle := by
  intro plan missing silent givingUp
  refine ⟨?_, _, rfl, fun named => by cases named.index⟩
  intro registry member
  simp only [List.mem_cons, List.not_mem_nil, or_false] at member
  rcases member with rfl | rfl | rfl
  all_goals exact ⟨⟨_, rfl⟩, fun recorded => by cases recorded.length⟩

end Plan

end DrawingPlan
