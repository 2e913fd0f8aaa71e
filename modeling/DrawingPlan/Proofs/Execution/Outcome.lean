import DrawingPlan.Proofs.Execution.Course
import DrawingPlan.Proofs.Json.Showing

set_option autoImplicit false

namespace DrawingPlan

variable {α : Type}

/-- Handlers change a drawing as anyone may, and leave its transaction alone. -/
def Registry.Obedient (registry : Registry α) : Prop :=
  ∀ kind handler, registry.handler? kind = some handler → ∀ action memory drawing,
    ∃ changes, (handler action memory drawing).2.drawing = drawing.changed changes

/--
Handlers answer with JSON values, which are what JSON texts say. No text says an integer of more
digits than are read, such as `10 ^ 4300`, or a list that is nested deeper than the reader goes.
-/
def Registry.Literate (registry : Registry α) : Prop :=
  letI : Json.Nesting := ⟨registry.depth⟩
  ∀ kind handler, registry.handler? kind = some handler → ∀ action memory drawing answer,
    (handler action memory drawing).2.answer = .ok answer → ∃ text, Json.read text = .ok answer

theorem Registry.standard_obedient [Scalar α] : (Registry.standard : Registry α).Obedient := by
  intro kind handler known action memory drawing
  obtain ⟨changes, -, same⟩ :=
    (Registry.standard_orderly kind handler known action memory drawing).reaches
  exact ⟨changes, same⟩

namespace Registry

variable {registry last : Registry α} {drawing reached given : Drawing α}
  {services : List (Service α)} {action : Action α}

theorem Gives.keeps (gives : registry.Gives services last) :
    ∃ memory, last = { registry with memory } := by
  induction gives with
  | nil registry => exact ⟨registry.memory, rfl⟩
  | cons replied _ ih =>
    obtain ⟨-, memory, -, rfl, -⟩ := reply?_eq_some replied
    exact ih

theorem Asked.handled {reply : Reply α}
    (asked : registry.Asked services action given (some reply)) :
    ∃ handler memory, registry.handler? action.kind = some handler ∧
      reply = (handler action memory given).2 := by
  obtain ⟨last, gives, same⟩ := asked
  obtain ⟨memory, rfl⟩ := gives.keeps
  obtain ⟨⟨next, answered⟩, replied, rfl⟩ := Option.map_eq_some_iff.mp same
  obtain ⟨handler, -, known, -, rfl⟩ := reply?_eq_some replied
  exact ⟨handler, memory, known, rfl⟩

theorem Gives.asked (gives : registry.Gives services last) {service : Service α}
    (member : service ∈ services) :
    ∃ earlier, registry.Asked earlier service.action service.given (some service.reply) := by
  induction gives with
  | nil => cases member
  | @cons registry next last first rest replied _ ih =>
    rcases List.mem_cons.mp member with rfl | behind
    · exact ⟨[], registry, .nil registry, by simp [replied]⟩
    · obtain ⟨earlier, middle, gives, asked⟩ := ih behind
      exact ⟨first :: earlier, middle, .cons replied gives, asked⟩

theorem Obedient.grown_asked (obedient : registry.Obedient) {reply : Reply α}
    (asked : registry.Asked services action given (some reply)) : given.Grown reply.drawing := by
  obtain ⟨handler, memory, known, rfl⟩ := asked.handled
  obtain ⟨changes, same⟩ := obedient action.kind handler known action memory given
  exact same ▸ Drawing.grown_changed changes given

theorem Obedient.grown_served (obedient : registry.Obedient)
    (served : Served registry drawing services last reached) : drawing.Grown reached := by
  apply served.preserves (Drawing.Grown.refl drawing)
  intro service member grown
  obtain ⟨earlier, asked⟩ := served.given.asked member
  exact grown.trans (obedient.grown_asked asked)

theorem Obedient.grown_halted (obedient : registry.Obedient) {actions : List (Action α)}
    {halt : Halt α} (halted : Halted registry drawing actions halt) :
    drawing.Grown halt.left := by
  obtain ⟨last, gives, same⟩ := halted.asked
  have before := obedient.grown_served ⟨halted.chained, gives⟩
  rcases halted.stops.left_cases with ⟨-, unchanged⟩ | ⟨reply, replied, unchanged⟩
  · exact unchanged ▸ before
  · have asked : registry.Asked halt.services halt.action halt.given (some reply) :=
      ⟨last, gives, same.trans replied⟩
    exact unchanged ▸ before.trans (obedient.grown_asked asked)

theorem wording_of_shows {depth : Nat} {answer : Json} (shown : answer.Shows depth)
    (counted : Nat) : ∃ words, Run.wording counted depth answer = .ok words := by
  cases accepted : Run.accepted answer with
  | false =>
    simp only [Run.wording, accepted]
    exact ⟨_, shown.render counted⟩
  | true =>
    simp only [Run.wording, accepted, if_true, Run.summary]
    cases created : answer.field? "created" with
    | some count =>
      simp only [(shown.field? created).render counted]
      exact ⟨_, rfl⟩
    | none =>
      cases affected : answer.field? "affected" with
      | some count =>
        simp only [(shown.field? affected).render counted]
        exact ⟨_, rfl⟩
      | none => exact ⟨_, rfl⟩

theorem Literate.shown (literate : registry.Literate) {reply : Reply α}
    (asked : registry.Asked services action given (some reply)) {answer : Json}
    (answered : reply.answer = .ok answer) (counted : Nat) :
    ∃ words, Run.wording counted registry.depth answer = .ok words := by
  let _ : Json.Nesting := ⟨registry.depth⟩
  obtain ⟨handler, memory, known, rfl⟩ := asked.handled
  obtain ⟨text, read⟩ := literate action.kind handler known action memory given answer answered
  exact wording_of_shows (Json.shows_of_read read) counted

end Registry

namespace Plan

structure Completed (registry : Registry α) (plan : Plan α) (drawing : Drawing α) : Prop where
  idle : drawing.inTransaction = false
  served : ∃ services last reached, Served registry drawing.opened services last reached ∧
    services.map Service.action = plan.actions ∧
    (plan.run registry drawing).1.history = services.map Service.entry ∧
    (plan.run registry drawing).1.drawing = { reached with checkpoint := none }
  returns : (plan.run registry drawing).2 = .ok ()
  ended : (plan.run registry drawing).1.drawing.inTransaction = false
  reported : (plan.run registry drawing).1.report.getLast? = some ("✅ Plan executed" : Text)

/-- No handler counts for what comes of the run, and nothing is changed. -/
structure Refused (registry : Registry α) (plan : Plan α) (drawing : Drawing α) : Prop where
  active : drawing.inTransaction = true
  raises : (plan.run registry drawing).2 = .error (.execution (.busy .alreadyActive))
  uncalled : ∀ other : Registry α, plan.run other drawing = plan.run registry drawing
  history : (plan.run registry drawing).1.history = []
  unchanged : (plan.run registry drawing).1.drawing = drawing

/-- A run up to an action that stops it. Only the replies up to that one count for the run. -/
structure StoppedAt (registry : Registry α) (plan : Plan α) (drawing : Drawing α)
    (halt : Halt α) : Prop where
  halted : Halted registry drawing.opened plan.actions halt
  raises : (plan.run registry drawing).2 = .error halt.raised
  history : (plan.run registry drawing).1.history =
    halt.services.map Service.entry ++ halt.entries
  restored : (plan.run registry drawing).1.drawing = halt.left.backTo drawing
  uncalled : ∀ other : Registry α, other.depth = registry.depth →
    other.Asked halt.services halt.action halt.given halt.reply →
    plan.run other drawing = plan.run registry drawing
  reported : (plan.run registry drawing).1.report.getLast? =
    some ("↩ Plan rolled back, drawing unchanged" : Text)

structure Undone (cause : Halt α → Prop) (registry : Registry α) (plan : Plan α)
    (drawing : Drawing α) : Prop where
  idle : drawing.inTransaction = false
  unserved : ¬∃ services last reached, Served registry drawing.opened services last reached ∧
    services.map Service.action = plan.actions
  stopped : ∃ halt, StoppedAt registry plan drawing halt ∧ cause halt
  entities : drawing.blocks.appearance (plan.run registry drawing).1.drawing.entities =
    drawing.blocks.appearance drawing.entities
  same : ∀ (place : Nat) entity, drawing.entities[place]? = some entity →
    entity.Tabled drawing.blocks →
    (plan.run registry drawing).1.drawing.entities[place]? = some entity
  whole : (∀ entity ∈ drawing.entities, entity.Tabled drawing.blocks) →
    (plan.run registry drawing).1.drawing.entities = drawing.entities
  layers : (plan.run registry drawing).1.drawing.layers.table = drawing.layers.table
  ended : (plan.run registry drawing).1.drawing.inTransaction = false

def GivenUp : Registry α → Plan α → Drawing α → Prop :=
  Undone fun halt => (∃ error, halt.raised = .execution error) ∨
    ∃ kind text, halt.raised = .interrupt kind text

-- What the handler answered cannot be shown.
def Unshown (registry : Registry α) : Plan α → Drawing α → Prop :=
  Undone (fun halt => ∃ reply answer fault, halt.reply = some reply ∧ reply.answer = .ok answer ∧
    Run.wording halt.left.entities.length registry.depth answer = .error fault ∧
    halt.raised = .fault fault) registry

inductive Ending where
  | completed
  | refused
  | givenUp
  | unshown

def Ending.Holds (registry : Registry α) (plan : Plan α) (drawing : Drawing α) : Ending → Prop
  | .completed => Completed registry plan drawing
  | .refused => Refused registry plan drawing
  | .givenUp => GivenUp registry plan drawing
  | .unshown => Unshown registry plan drawing

variable {registry last : Registry α} {plan : Plan α} {drawing reached : Drawing α}
  {services : List (Service α)} {halt : Halt α}

theorem run_eq_attempt (idle : drawing.inTransaction = false) (registry : Registry α)
    (plan : Plan α) : plan.run registry drawing =
      match plan.attempt registry drawing.opened with
      | (reached, .ok ()) => Run.close reached
      | (reached, .error raised) => Run.abandon raised reached :=
  run_eq (Drawing.begin?_eq_ok_iff.mpr ⟨idle, rfl⟩) registry plan

theorem attempt_of_served (served : Served registry drawing services last reached)
    (same : services.map Service.action = plan.actions) :
    ∃ after, plan.attempt registry drawing = (after, .ok ()) ∧ after.drawing = reached ∧
      after.history = services.map Service.entry := by
  obtain ⟨after, ended, history, later⟩ := Run.steps_served served.chained plan.actions.length 0
    (rfl : ({ drawing, report := [_] } : Progress α).drawing = drawing)
  have stepped := later registry last rfl served.given []
  rw [List.append_nil, same] at stepped
  exact ⟨after, stepped, ended, history⟩

theorem attempt_of_halted (halted : Halted registry drawing plan.actions halt) :
    ∃ after, after.drawing = halt.left ∧
      after.history = halt.services.map Service.entry ++ halt.entries ∧
      ∀ other : Registry α, other.depth = registry.depth →
        other.Asked halt.services halt.action halt.given halt.reply →
        plan.attempt other drawing = (after, .error halt.raised) := by
  obtain ⟨given, start, history, later⟩ :=
    Run.steps_served halted.chained plan.actions.length 0
      (rfl : ({ drawing, report := [_] } : Progress α).drawing = drawing)
  obtain ⟨after, left, entries, stopped⟩ := Run.steps_stops halted.stops plan.actions.length start
  refine ⟨after, left, by rw [entries, history, List.nil_append], ?_⟩
  rintro other depth ⟨last, gives, asked⟩
  have stepped := later other last depth gives (halt.action :: halt.rest)
  rw [← halted.actions, Nat.zero_add, stopped last (gives.depth.trans depth) asked] at stepped
  exact stepped

theorem run_of_served (idle : drawing.inTransaction = false)
    (served : Served registry drawing.opened services last reached)
    (grown : drawing.opened.Grown reached)
    (same : services.map Service.action = plan.actions) :
    ∃ progress, plan.run registry drawing = (progress, .ok ()) ∧
      progress.drawing = { reached with checkpoint := none } ∧
      progress.history = services.map Service.entry ∧
      progress.report.getLast? = some ("✅ Plan executed" : Text) := by
  obtain ⟨after, attempted, ended, history⟩ := attempt_of_served served same
  have held : reached.checkpoint = some drawing.currentCheckpoint := grown.checkpoint
  have run : plan.run registry drawing =
      (({ after with drawing := { reached with checkpoint := none } } : Progress α).say
        "✅ Plan executed", .ok ()) := by
    simp only [run_eq_attempt idle, attempted, Run.close, Drawing.commit?, ended, held]
  exact ⟨_, run, rfl, history, by simp [Progress.say]⟩

theorem completed_of_served (idle : drawing.inTransaction = false)
    (served : Served registry drawing.opened services last reached)
    (grown : drawing.opened.Grown reached)
    (same : services.map Service.action = plan.actions) : Completed registry plan drawing := by
  obtain ⟨progress, run, ended, history, reported⟩ := run_of_served idle served grown same
  refine ⟨idle, ⟨services, last, reached, served, same, ?_, ?_⟩, ?_, ?_, ?_⟩
  all_goals rw [run]
  · exact history
  · exact ended
  · simp only [Drawing.inTransaction, ended, Option.isSome_none]
  · exact reported

theorem stoppedAt_of_halted (idle : drawing.inTransaction = false)
    (halted : Halted registry drawing.opened plan.actions halt)
    (grown : drawing.opened.Grown halt.left) : StoppedAt registry plan drawing halt := by
  obtain ⟨after, left, history, attempted⟩ := attempt_of_halted halted
  -- The run is worked out from the replies alone, so that it is the same for any registry.
  have run : ∀ other : Registry α, other.depth = registry.depth →
      other.Asked halt.services halt.action halt.given halt.reply →
      plan.run other drawing =
        (({ after with
            drawing := halt.left.backTo drawing
            notes := after.notes ++ halt.left.rollbackNotes } : Progress α).say
          "↩ Plan rolled back, drawing unchanged", .error halt.raised) := by
    intro other depth asked
    simp only [run_eq_attempt idle, attempted other depth asked, Run.abandon, left,
      Drawing.rollback?_of_grown grown]
  have own := run registry rfl halted.asked
  refine ⟨halted, ?_, ?_, ?_, ?_, ?_⟩
  · rw [own]
  · rw [own]
    exact history
  · rw [own]
    rfl
  · intro other depth asked
    rw [own, run other depth asked]
  · rw [own]
    simp [Progress.say]

theorem refused_of_active (active : drawing.inTransaction = true) :
    Refused registry plan drawing := by
  obtain ⟨checkpoint, held⟩ := Option.isSome_iff_exists.mp active
  have begun : drawing.begin? = .error .alreadyActive := by
    simp only [Drawing.begin?, held]
  refine ⟨active, ?_, ?_, ?_, ?_⟩
  · simp only [Plan.run, begun]
  · intro other
    simp only [Plan.run, begun]
  · simp only [Plan.run, begun]
  · simp only [Plan.run, begun]

theorem undone_of_halted (obedient : registry.Obedient) (idle : drawing.inTransaction = false)
    (halted : Halted registry drawing.opened plan.actions halt) {cause : Halt α → Prop}
    (known : cause halt) : Undone cause registry plan drawing := by
  have stopped := stoppedAt_of_halted idle halted (obedient.grown_halted halted)
  refine ⟨idle, ?_, ⟨halt, stopped, known⟩, ?_, ?_, ?_, ?_, ?_⟩
  · rintro ⟨services, last, reached, served, same⟩
    have completed := completed_of_served idle served (obedient.grown_served served) same
    have returns := completed.returns
    rw [stopped.raises] at returns
    cases returns
  all_goals rw [stopped.restored]
  · exact drawing.appearance_copies
  · exact fun _ _ found tabled => Drawing.copies_of_tabled found tabled
  · exact Drawing.copies_of_all_tabled
  · rfl
  · rfl

def Ending.told (drawing : Drawing α) (outcome : Except Raised Unit) : Ending :=
  if drawing.inTransaction then .refused
  else
    match outcome with
    | .ok () => .completed
    | .error (.fault _) => .unshown
    | .error _ => .givenUp

theorem Ending.Holds.told {ending : Ending} (holds : ending.Holds registry plan drawing) :
    ending = Ending.told drawing (plan.run registry drawing).2 := by
  cases ending with
  | completed =>
    have completed : Completed registry plan drawing := holds
    simp [Ending.told, completed.idle, completed.returns]
  | refused =>
    have refused : Refused registry plan drawing := holds
    simp [Ending.told, refused.active]
  | givenUp =>
    have givenUp : GivenUp registry plan drawing := holds
    obtain ⟨halt, stopped, ⟨error, raised⟩ | ⟨kind, text, raised⟩⟩ := givenUp.stopped
    · simp [Ending.told, givenUp.idle, stopped.raises, raised]
    · simp [Ending.told, givenUp.idle, stopped.raises, raised]
  | unshown =>
    have unshown : Unshown registry plan drawing := holds
    obtain ⟨halt, stopped, reply, answer, fault, -, -, -, raised⟩ := unshown.stopped
    simp [Ending.told, unshown.idle, stopped.raises, raised]

-- A count that is as long as `10 ^ 4300` can be answered and not shown.
theorem unshown_of_long_count {count : Nat} (long : 10 ^ Number.digitLimit ≤ count) :
    let answer : Json := .object [("ok", .bool true), ("created", .integer count)]
    let registry : Registry Nat :=
      .ofHandlers fun _ => some fun _ drawing => ⟨drawing, [], .ok answer⟩
    let plan : Plan Nat := ⟨[.erase ⟨none⟩]⟩
    let drawing : Drawing Nat := { linetypeScale := 1 }
    Unshown registry plan drawing ∧
      (plan.run registry drawing).2 = .error (.fault .longNumber) := by
  intro answer registry plan drawing
  have many : 0 < count := Nat.lt_of_lt_of_le (Nat.pow_pos (by decide)) long
  have digits : Number.digitLimit < Number.decimalLength count := by
    rw [← Nat.not_le, Number.decimalLength, Nat.length_toDigits_le_iff (by decide) (by decide)]
    exact Nat.not_lt.mpr long
  have hidden : (Json.integer count).render 0 registry.depth = .error .longNumber := by
    simp only [Json.render, Json.hindrance?, Int.natAbs_natCast, many, digits, and_self, if_true]
  have unshown : Run.wording 0 registry.depth answer = .error .longNumber :=
    congrArg (fun shown => do return "(created " ++ (← shown) ++ ")") hidden
  have obedient : registry.Obedient := by
    intro kind handler known action memory given
    obtain rfl := Option.some.inj known
    exact ⟨[], rfl⟩
  have halted : Halted registry drawing.opened plan.actions
      ⟨[], drawing.opened, .erase ⟨none⟩, [], some ⟨drawing.opened, [], .ok answer⟩,
        drawing.opened, [], .fault .longNumber⟩ :=
    ⟨.nil _, ⟨registry, .nil registry, rfl⟩, rfl, .unshown _ [] unshown⟩
  exact ⟨undone_of_halted obedient rfl halted ⟨_, answer, _, rfl, rfl, unshown, rfl⟩,
    (stoppedAt_of_halted rfl halted (.refl _)).raises⟩

end Plan

end DrawingPlan
