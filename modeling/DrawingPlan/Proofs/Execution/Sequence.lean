import DrawingPlan.Proofs.Execution.Outcome

set_option autoImplicit false

namespace DrawingPlan

variable {α : Type}

def Drawing.withCheckpoint (drawing : Drawing α) (checkpoint : Option (Checkpoint α)) :
    Drawing α :=
  { drawing with checkpoint }

def Reply.withCheckpoint (reply : Reply α) (checkpoint : Option (Checkpoint α)) : Reply α :=
  { reply with drawing := reply.drawing.withCheckpoint checkpoint }

namespace Drawing

variable (drawing : Drawing α) (checkpoint : Option (Checkpoint α))

theorem foldl_withCheckpoint {edit : Drawing α → Nat → Drawing α}
    (blind : ∀ (drawing : Drawing α) place,
      edit (drawing.withCheckpoint checkpoint) place =
        (edit drawing place).withCheckpoint checkpoint) (places : List Nat) :
    places.foldl edit (drawing.withCheckpoint checkpoint) =
      (places.foldl edit drawing).withCheckpoint checkpoint :=
  List.foldl_hom (fun edited : Drawing α => edited.withCheckpoint checkpoint) blind

theorem editEach_withCheckpoint (change : Entity α → Entity α) (places : List Nat) :
    (drawing.withCheckpoint checkpoint).editEach change places =
      (drawing.editEach change places).withCheckpoint checkpoint :=
  foldl_withCheckpoint drawing checkpoint (fun _ _ => rfl) places

theorem transformEach_withCheckpoint [Scalar α] (t : Transform α) (places : List Nat) :
    (drawing.withCheckpoint checkpoint).transformEach t places =
      ((drawing.transformEach t places).1.withCheckpoint checkpoint,
        (drawing.transformEach t places).2) := by
  induction places generalizing drawing with
  | nil => rfl
  | cons place rest ih =>
    have same : (drawing.withCheckpoint checkpoint).entities = drawing.entities := rfl
    simp only [transformEach, same]
    split
    · exact ih drawing
    · rfl
    · next moved _ => exact ih (drawing.editEntity place fun _ => moved)

end Drawing

namespace Reply

variable [Scalar α] (drawing : Drawing α) (checkpoint : Option (Checkpoint α))

omit [Scalar α] in
theorem outline_withCheckpoint (vertices : Except Fault (List (Point α))) (layer : Text) :
    outline (drawing.withCheckpoint checkpoint) vertices layer =
      (outline drawing vertices layer).withCheckpoint checkpoint := by
  cases vertices <;> rfl

theorem selecting_withCheckpoint {filter : Option (Filter α)} {change other : List Nat → Reply α}
    (blind : ∀ places, other places = (change places).withCheckpoint checkpoint) :
    selecting (drawing.withCheckpoint checkpoint) filter other =
      (selecting drawing filter change).withCheckpoint checkpoint := by
  have same : (drawing.withCheckpoint checkpoint).select filter = drawing.select filter := rfl
  simp only [selecting, same]
  split
  · rfl
  · exact blind _

theorem transforming_withCheckpoint (filter : Option (Filter α)) (t : Transform α) :
    transforming (drawing.withCheckpoint checkpoint) filter t =
      (transforming drawing filter t).withCheckpoint checkpoint := by
  apply selecting_withCheckpoint
  intro places
  rw [Drawing.transformEach_withCheckpoint]
  rcases drawing.transformEach t places with ⟨moved, ended⟩
  cases ended <;> rfl

end Reply

section Actions

variable [Scalar α] (drawing : Drawing α) (checkpoint : Option (Checkpoint α))

theorem InsertBlock.perform_withCheckpoint (action : InsertBlock α) :
    action.perform (drawing.withCheckpoint checkpoint) =
      (action.perform drawing).withCheckpoint checkpoint := by
  have same : (drawing.withCheckpoint checkpoint).blocks = drawing.blocks := rfl
  simp only [InsertBlock.perform, same]
  split
  · rfl
  · split <;> rfl

theorem Erase.perform_withCheckpoint (action : Erase α) :
    action.perform (drawing.withCheckpoint checkpoint) =
      (action.perform drawing).withCheckpoint checkpoint := by
  apply Reply.selecting_withCheckpoint
  intro places
  rw [Drawing.foldl_withCheckpoint _ _ fun _ _ => rfl]
  rfl

theorem ChangeLayer.perform_withCheckpoint (action : ChangeLayer α) :
    action.perform (drawing.withCheckpoint checkpoint) =
      (action.perform drawing).withCheckpoint checkpoint := by
  simp only [ChangeLayer.perform]
  split
  · rfl
  · next layer _ =>
    apply Reply.selecting_withCheckpoint
    intro places
    split
    · rfl
    · exact congrArg (fun reached => Reply.affected reached _ _ _)
        ((drawing.ensureLayer layer).editEach_withCheckpoint checkpoint _ places)

theorem ChangeProperties.perform_withCheckpoint (action : ChangeProperties α) :
    action.perform (drawing.withCheckpoint checkpoint) =
      (action.perform drawing).withCheckpoint checkpoint := by
  simp only [ChangeProperties.perform]
  split
  · rfl
  · apply Reply.selecting_withCheckpoint
    intro places
    exact congrArg (fun reached => Reply.affected reached _ _ _)
      (drawing.editEach_withCheckpoint checkpoint action.apply places)

theorem Action.perform_withCheckpoint (action : Action α) :
    action.perform (drawing.withCheckpoint checkpoint) =
      (action.perform drawing).withCheckpoint checkpoint := by
  cases action with
  | line action => rfl
  | polyline action => rfl
  | rectangle action => exact Reply.outline_withCheckpoint ..
  | circle action => rfl
  | polygon action => exact Reply.outline_withCheckpoint ..
  | insertBlock action => exact action.perform_withCheckpoint ..
  | move action => exact Reply.transforming_withCheckpoint ..
  | rotate action => exact Reply.transforming_withCheckpoint ..
  | scale action => exact Reply.transforming_withCheckpoint ..
  | erase action => exact action.perform_withCheckpoint ..
  | changeLayer action => exact action.perform_withCheckpoint ..
  | changeProperties action => exact action.perform_withCheckpoint ..

end Actions

def Service.withCheckpoint (service : Service α) (checkpoint : Option (Checkpoint α)) :
    Service α :=
  { service with
    given := service.given.withCheckpoint checkpoint
    left := service.left.withCheckpoint checkpoint }

theorem Chained.withCheckpoint {depth : Nat} {drawing reached : Drawing α}
    {services : List (Service α)} (chained : Chained depth drawing services reached)
    (checkpoint : Option (Checkpoint α)) :
    Chained depth (drawing.withCheckpoint checkpoint)
      (services.map fun service => service.withCheckpoint checkpoint)
      (reached.withCheckpoint checkpoint) := by
  induction chained with
  | nil drawing => exact .nil _
  | @cons service services reached passes _ ih =>
    have first : (service.withCheckpoint checkpoint).Passes depth := passes
    exact Chained.cons first ih

theorem Served.withCheckpoint [Scalar α] {drawing reached : Drawing α}
    {services : List (Service α)} (served : Served .standard drawing services .standard reached)
    (checkpoint : Option (Checkpoint α)) :
    Served .standard (drawing.withCheckpoint checkpoint)
      (services.map fun service => service.withCheckpoint checkpoint) .standard
      (reached.withCheckpoint checkpoint) where
  chained := served.chained.withCheckpoint checkpoint
  given := by
    refine Registry.gives_standard fun service member => ?_
    obtain ⟨before, inside, rfl⟩ := List.mem_map.mp member
    have blind := before.action.perform_withCheckpoint before.given checkpoint
    rw [served.given.of_standard.2 before inside] at blind
    exact blind

theorem Service.map_withCheckpoint (services : List (Service α))
    (checkpoint : Option (Checkpoint α)) :
    (services.map fun service => service.withCheckpoint checkpoint).map Service.action =
        services.map Service.action ∧
      (services.map fun service => service.withCheckpoint checkpoint).map Service.entry =
        services.map Service.entry := by
  constructor <;> simp [Service.withCheckpoint, Service.entry]

namespace Plan

def EndsWithin (count : Nat) (ended : Progress α × Except Raised Unit) : Prop :=
  ended.2 = .ok () ∨ ∃ index kind cause, index < count ∧
    ended.2 = .error (.execution (.failed index kind cause))

/-- The run of a whole plan against the runs of its two parts, the second after the first. -/
structure InSequence (initial : Drawing α) (count : Nat)
    (first second whole : Progress α × Except Raised Unit) : Prop where
  ends : EndsWithin count first
  succeeds : whole.2 = .ok () ↔ first.2 = .ok () ∧ second.2 = .ok ()
  drawing : whole.2 = .ok () → whole.1.drawing = second.1.drawing
  history : whole.2 = .ok () → whole.1.history = first.1.history ++ second.1.history
  early : ∀ index kind cause, first.2 = .error (.execution (.failed index kind cause)) →
    whole.2 = .error (.execution (.failed index kind cause)) ∧ initial.Alike whole.1.drawing
  late : first.2 = .ok () → ∀ index kind cause,
    second.2 = .error (.execution (.failed index kind cause)) →
    whole.2 = .error (.execution (.failed (count + index) kind cause)) ∧
      initial.Alike whole.1.drawing

variable [Scalar α] {drawing : Drawing α} {actions : List (Action α)}

theorem run_of_success (idle : drawing.inTransaction = false) {services : List (Service α)}
    {reached : Drawing α} (served : Served .standard drawing.opened services .standard reached)
    (same : services.map Service.action = actions) :
    ∃ progress, Plan.run .standard ⟨actions⟩ drawing = (progress, .ok ()) ∧
      progress.drawing = { reached with checkpoint := none } ∧
      progress.history = services.map Service.entry := by
  obtain ⟨progress, run, ended, history, -⟩ := run_of_served idle served
    (Registry.standard_obedient.grown_served served) same
  exact ⟨progress, run, ended, history⟩

theorem run_of_fault (idle : drawing.inTransaction = false) {services : List (Service α)}
    {given : Drawing α} {action : Action α} {rest : List (Action α)} {cause : Fault}
    (served : Served .standard drawing.opened services .standard given)
    (fault : (action.perform given).answer = .error (.fault cause))
    (same : actions = services.map Service.action ++ action :: rest) :
    ∃ progress, Plan.run .standard ⟨actions⟩ drawing =
        (progress, .error (.execution (.failed services.length action.kind cause))) ∧
      drawing.Alike progress.drawing := by
  have reply : action.perform given =
      ⟨(action.perform given).drawing, (action.perform given).notes, .error (.fault cause)⟩ := by
    rw [← fault]
  have halted : Halted .standard drawing.opened actions
      ⟨services, given, action, rest, some (action.perform given), (action.perform given).drawing,
        [.failed action.kind cause.message],
        .execution (.failed services.length action.kind cause)⟩ :=
    ⟨served.chained, ⟨.standard, served.given, rfl⟩, same, by
      rw [reply]
      exact .failed _ _ rfl⟩
  have stopped : StoppedAt .standard ⟨actions⟩ drawing _ :=
    stoppedAt_of_halted idle halted (Registry.standard_obedient.grown_halted halted)
  have raises := stopped.raises
  refine ⟨_, Prod.ext rfl raises, ?_⟩
  rcases run_cases Registry.standard_orderly ⟨actions⟩ drawing with done | ⟨_, _, unchanged⟩
  · rw [raises] at done
    cases done
  · exact unchanged

structure CompletedBy (plan : Plan α) (drawing : Drawing α) (services : List (Service α)) :
    Prop where
  idle : drawing.inTransaction = false
  served : ∃ reached, Served .standard drawing.opened services .standard reached ∧
    (plan.run .standard drawing).1.drawing = { reached with checkpoint := none }
  actions : services.map Service.action = plan.actions
  history : (plan.run .standard drawing).1.history = services.map Service.entry

theorem completedBy_of_ok {plan : Plan α} (done : (plan.run .standard drawing).2 = .ok ()) :
    ∃ services, CompletedBy plan drawing services := by
  cases active : drawing.inTransaction with
  | true =>
    have refused : Refused .standard plan drawing := refused_of_active active
    rw [refused.raises] at done
    cases done
  | false =>
    rcases Registry.standard_course drawing.opened plan.actions with
      ⟨services, reached, served, same⟩ |
        ⟨services, given, action, rest, cause, served, same, fault⟩
    · obtain ⟨progress, run, ended, history⟩ := run_of_success active served same
      refine ⟨services, active, ⟨reached, served, ?_⟩, same, ?_⟩
      · rw [run]
        exact ended
      · rw [run]
        exact history
    · obtain ⟨progress, run, -⟩ := run_of_fault active served fault same
      rw [run] at done
      cases done

/-- What the second plan does after a commit, it does inside the first transaction as well. -/
theorem served_onward {middle reached : Drawing α} {later : List (Service α)}
    (served : Served .standard ({ middle with checkpoint := none } : Drawing α).opened later
      .standard reached) :
    Served .standard middle (later.map fun service => service.withCheckpoint middle.checkpoint)
      .standard (reached.withCheckpoint middle.checkpoint) :=
  served.withCheckpoint middle.checkpoint

section Parts

variable {services later : List (Service α)} {middle reached given : Drawing α}
  {action : Action α} {rest : List (Action α)} {cause : Fault}

theorem inSequence_of_success (idle : drawing.inTransaction = false)
    (early : Served .standard drawing.opened services .standard middle)
    (late : Served .standard ({ middle with checkpoint := none } : Drawing α).opened later
      .standard reached) :
    let first := Plan.run .standard ⟨services.map Service.action⟩ drawing
    InSequence drawing services.length first
      (Plan.run .standard ⟨later.map Service.action⟩ first.1.drawing)
      (Plan.run .standard ⟨services.map Service.action ++ later.map Service.action⟩ drawing) := by
  intro first
  obtain ⟨names, entries⟩ := Service.map_withCheckpoint later middle.checkpoint
  obtain ⟨one, firstRun, firstEnded, firstHistory⟩ := run_of_success idle early rfl
  obtain ⟨two, secondRun, secondEnded, secondHistory⟩ := run_of_success rfl late rfl
  obtain ⟨all, wholeRun, wholeEnded, wholeHistory⟩ := run_of_success idle
    (early.append (served_onward late)) (by rw [List.map_append, names])
  simp only [first, firstRun, firstEnded, secondRun, wholeRun]
  refine ⟨.inl rfl, by simp, fun _ => ?_, fun _ => ?_, ?_, ?_⟩
  · rw [wholeEnded, secondEnded]
    rfl
  · rw [wholeHistory, firstHistory, secondHistory, List.map_append, entries]
  · intro index kind cause failed
    cases failed
  · intro _ index kind cause failed
    cases failed

theorem inSequence_of_late_fault (idle : drawing.inTransaction = false)
    (early : Served .standard drawing.opened services .standard middle)
    (late : Served .standard ({ middle with checkpoint := none } : Drawing α).opened later
      .standard given)
    (fault : (action.perform given).answer = .error (.fault cause)) :
    let first := Plan.run .standard ⟨services.map Service.action⟩ drawing
    let actions := later.map Service.action ++ action :: rest
    InSequence drawing services.length first (Plan.run .standard ⟨actions⟩ first.1.drawing)
      (Plan.run .standard ⟨services.map Service.action ++ actions⟩ drawing) := by
  intro first actions
  obtain ⟨names, -⟩ := Service.map_withCheckpoint later middle.checkpoint
  have again : (action.perform (given.withCheckpoint middle.checkpoint)).answer =
      .error (.fault cause) := by
    rw [action.perform_withCheckpoint]
    exact fault
  obtain ⟨one, firstRun, firstEnded, -⟩ := run_of_success idle early rfl
  have regrouped : services.map Service.action ++ actions =
      (services ++ later.map fun service => service.withCheckpoint middle.checkpoint).map
        Service.action ++ action :: rest := by
    simp only [actions, List.map_append, names, List.append_assoc]
  obtain ⟨two, secondRun, -⟩ := run_of_fault rfl late fault (rfl : actions = _ ++ action :: rest)
  obtain ⟨all, wholeRun, wholeEnded⟩ := run_of_fault idle
    (early.append (served_onward late)) again regrouped
  simp only [first, firstRun, firstEnded, secondRun, wholeRun]
  refine ⟨.inl rfl, by simp, ?_, ?_, ?_, ?_⟩
  · intro done
    cases done
  · intro done
    cases done
  · intro index kind cause failed
    cases failed
  · intro _ index kind cause failed
    cases failed
    exact ⟨by simp, wholeEnded⟩

theorem inSequence_of_early_fault (idle : drawing.inTransaction = false)
    (early : Served .standard drawing.opened services .standard given)
    (fault : (action.perform given).answer = .error (.fault cause)) (later : List (Action α)) :
    let actions := services.map Service.action ++ action :: rest
    let first := Plan.run .standard ⟨actions⟩ drawing
    InSequence drawing actions.length first (Plan.run .standard ⟨later⟩ first.1.drawing)
      (Plan.run .standard ⟨actions ++ later⟩ drawing) := by
  intro actions first
  have grouped : actions = services.map Service.action ++ action :: rest := rfl
  have regrouped : actions ++ later =
      services.map Service.action ++ action :: (rest ++ later) := by
    simp [actions]
  obtain ⟨one, firstRun, firstEnded⟩ := run_of_fault idle early fault grouped
  obtain ⟨all, wholeRun, wholeEnded⟩ := run_of_fault idle early fault regrouped
  have inside : services.length < actions.length := by
    simp [actions]
  simp only [first, firstRun, wholeRun]
  refine ⟨.inr ⟨services.length, action.kind, cause, inside, rfl⟩, by simp, ?_, ?_, ?_, ?_⟩
  · intro done
    cases done
  · intro done
    cases done
  · intro index kind cause failed
    cases failed
    exact ⟨rfl, wholeEnded⟩
  · intro done
    cases done

end Parts

theorem run_append (idle : drawing.inTransaction = false) (p q : Plan α) :
    InSequence drawing p.actions.length (p.run .standard drawing)
      (q.run .standard (p.run .standard drawing).1.drawing)
      (Plan.run .standard ⟨p.actions ++ q.actions⟩ drawing) := by
  obtain ⟨firstActions⟩ := p
  obtain ⟨laterActions⟩ := q
  rcases Registry.standard_course drawing.opened firstActions with
    ⟨services, middle, early, rfl⟩ | ⟨services, given, action, rest, cause, early, rfl, fault⟩
  · rw [List.length_map]
    rcases Registry.standard_course ({ middle with checkpoint := none } : Drawing α).opened
        laterActions with
      ⟨later, reached, late, rfl⟩ | ⟨later, given, action, rest, cause, late, rfl, fault⟩
    · exact inSequence_of_success idle early late
    · exact inSequence_of_late_fault idle early late fault
  · exact inSequence_of_early_fault idle early fault laterActions

theorem run_append_of_late_fault :
    let drawing : Drawing Float := Drawing.empty.append { geometry := none }
    let p : Plan Float := ⟨[.circle .standard]⟩
    let q : Plan Float := ⟨[.line .standard, .move .standard]⟩
    drawing.inTransaction = false ∧ ∃ cause,
      (Plan.run .standard ⟨p.actions ++ q.actions⟩ drawing).2 =
          .error (.execution (.failed 2 .move cause)) ∧
        (Plan.run .standard ⟨p.actions ++ q.actions⟩ drawing).1.drawing = drawing := by
  intro drawing p q
  have idle : drawing.inTransaction = false := rfl
  obtain ⟨raises, alike⟩ := (run_append idle p q).late rfl 1 .move _ rfl
  refine ⟨idle, _, raises, alike.whole fun entity member definition made => ?_⟩
  obtain rfl := List.mem_singleton.mp member
  cases made

end Plan

end DrawingPlan
