import DrawingPlan.Proofs.Execution.Run

set_option autoImplicit false

namespace DrawingPlan

variable {α : Type}

-- An action whose handler came to an end, with the drawings before and after it.
structure Service (α : Type) where
  action : Action α
  given : Drawing α
  left : Drawing α
  notes : List Note
  answer : Json

namespace Service

def reply (service : Service α) : Reply α :=
  ⟨service.left, service.notes, .ok service.answer⟩

def entry (service : Service α) : HistoryEntry :=
  .done service.action.kind service.answer

def Passes (depth : Nat) (service : Service α) : Prop :=
  Run.Passes service.left.entities.length depth service.answer

end Service

inductive Chained (depth : Nat) : Drawing α → List (Service α) → Drawing α → Prop
  | nil (drawing : Drawing α) : Chained depth drawing [] drawing
  | cons {service : Service α} {rest : List (Service α)} {reached : Drawing α}
      (passes : service.Passes depth) (later : Chained depth service.left rest reached) :
      Chained depth service.given (service :: rest) reached

theorem Chained.preserves {depth : Nat} {drawing reached : Drawing α} {services : List (Service α)}
    (chained : Chained depth drawing services reached) {kept : Drawing α → Prop}
    (start : kept drawing)
    (step : ∀ service ∈ services, kept service.given → kept service.left) : kept reached := by
  induction chained with
  | nil => exact start
  | cons _ _ ih =>
    obtain ⟨first, rest⟩ := List.forall_mem_cons.mp step
    exact ih (first start) rest

-- The last registry is the one that the replies left.
inductive Registry.Gives : Registry α → List (Service α) → Registry α → Prop
  | nil (registry : Registry α) : Gives registry [] registry
  | cons {registry next last : Registry α} {service : Service α} {rest : List (Service α)}
      (replied : registry.reply? service.action service.given = some (next, service.reply))
      (later : Gives next rest last) : Gives registry (service :: rest) last

structure Served (registry : Registry α) (drawing : Drawing α) (services : List (Service α))
    (last : Registry α) (reached : Drawing α) : Prop where
  chained : Chained registry.depth drawing services reached
  given : registry.Gives services last

inductive Stops (depth index : Nat) (action : Action α) (given : Drawing α) :
    Option (Reply α) → Drawing α → List HistoryEntry → Raised → Prop
  | unknown :
      Stops depth index action given none given [] (.execution (.unknownAction index action.kind))
  | rejected (left : Drawing α) (notes : List Note) {answer : Json} {shown : Text}
      (refused : Run.accepted answer = false)
      (worded : Run.wording left.entities.length depth answer = .ok shown) :
      Stops depth index action given (some ⟨left, notes, .ok answer⟩) left []
        (.execution (.rejected index action.kind shown))
  | unshown (left : Drawing α) (notes : List Note) {answer : Json} {fault : Fault}
      (hidden : Run.wording left.entities.length depth answer = .error fault) :
      Stops depth index action given (some ⟨left, notes, .ok answer⟩) left [] (.fault fault)
  | failed (left : Drawing α) (notes : List Note) {raised : Raised} {cause : Fault}
      (blamed : raised.blamed? = some cause) :
      Stops depth index action given (some ⟨left, notes, .error raised⟩) left
        [.failed action.kind cause.message] (.execution (.failed index action.kind cause))
  | passed (left : Drawing α) (notes : List Note) {raised : Raised}
      (unblamed : raised.blamed? = none) :
      Stops depth index action given (some ⟨left, notes, .error raised⟩) left [] raised

namespace Stops

variable {depth index : Nat} {action : Action α} {given left : Drawing α}
  {reply : Option (Reply α)} {entries : List HistoryEntry} {raised : Raised}

theorem left_cases (stops : Stops depth index action given reply left entries raised) :
    (reply = none ∧ left = given) ∨
      ∃ answered, reply = some answered ∧ answered.drawing = left := by
  cases stops with
  | unknown => exact .inl ⟨rfl, rfl⟩
  | rejected => exact .inr ⟨_, rfl, rfl⟩
  | unshown => exact .inr ⟨_, rfl, rfl⟩
  | failed => exact .inr ⟨_, rfl, rfl⟩
  | passed => exact .inr ⟨_, rfl, rfl⟩

theorem of_standard [Scalar α]
    (stops : Stops depth index action given (some (action.perform given)) left entries raised) :
    ∃ cause, (action.perform given).answer = .error (.fault cause) ∧
      (action.perform given).drawing = left ∧
      entries = [.failed action.kind cause.message] ∧
      raised = .execution (.failed index action.kind cause) := by
  have orderly := action.orderly_perform given
  generalize action.perform given = reply at stops orderly
  cases stops with
  | rejected left notes refused =>
    have passes := orderly.passes _ rfl depth
    rw [passes.accepted] at refused
    cases refused
  | unshown left notes hidden =>
    obtain ⟨text, shown⟩ := (orderly.passes _ rfl depth).shown
    rw [shown] at hidden
    cases hidden
  | failed left notes blamed =>
    obtain ⟨fault, rfl⟩ := orderly.faults _ rfl
    cases blamed
    exact ⟨_, rfl, rfl, rfl, rfl⟩
  | passed left notes unblamed =>
    obtain ⟨fault, rfl⟩ := orderly.faults _ rfl
    cases unblamed

end Stops

namespace Served

variable {registry middleRegistry last : Registry α} {drawing middle reached : Drawing α}
  {services later : List (Service α)}

theorem nil (registry : Registry α) (drawing : Drawing α) :
    Served registry drawing [] registry drawing :=
  ⟨.nil drawing, .nil registry⟩

theorem cons {next : Registry α} {service : Service α}
    (replied : registry.reply? service.action service.given = some (next, service.reply))
    (passes : service.Passes registry.depth)
    (served : Served next service.left services last reached) :
    Served registry service.given (service :: services) last reached where
  chained := .cons passes (Registry.depth_of_reply replied ▸ served.chained)
  given := .cons replied served.given

theorem append (early : Served registry drawing services middleRegistry middle)
    (late : Served middleRegistry middle later last reached) :
    Served registry drawing (services ++ later) last reached := by
  obtain ⟨chained, given⟩ := early
  induction given generalizing drawing with
  | nil =>
    cases chained
    exact late
  | cons replied _ ih =>
    cases chained with
    | cons passes chained =>
      have rest := ih late (Registry.depth_of_reply replied ▸ chained)
      exact Served.cons replied passes rest

theorem preserves (served : Served registry drawing services last reached)
    {kept : Drawing α → Prop} (start : kept drawing)
    (step : ∀ service ∈ services, kept service.given → kept service.left) : kept reached :=
  served.chained.preserves start step

theorem after (served : Served registry drawing services last reached) {service : Service α}
    (member : service ∈ services) :
    ∃ earlier next later, registry.Gives earlier next ∧
      Served next service.left later last reached := by
  obtain ⟨chained, given⟩ := served
  induction given generalizing drawing with
  | nil => cases member
  | @cons registry next last first rest replied given ih =>
    cases chained with
    | cons passes chained =>
      have still := Registry.depth_of_reply replied ▸ chained
      rcases List.mem_cons.mp member with rfl | behind
      · exact ⟨[service], next, rest, .cons replied (.nil next), still, given⟩
      · obtain ⟨earlier, middle, later, gives, served⟩ := ih behind still
        exact ⟨first :: earlier, middle, later, .cons replied gives, served⟩

theorem pairwise (served : Served registry drawing services last reached)
    {related : Drawing α → Drawing α → Prop} (refl : ∀ drawing, related drawing drawing)
    (trans : ∀ {first second third}, related first second → related second third →
      related first third)
    (step : ∀ service ∈ services, related service.given service.left)
    {first final : Drawing α} (start : related first drawing) (finish : related reached final) :
    (first :: (services.map Service.left ++ [final])).Pairwise related := by
  have chained := served.chained
  clear served
  induction chained generalizing first with
  | nil => simpa using trans start finish
  | @cons service rest reached _ _ ih =>
    obtain ⟨own, others⟩ := List.forall_mem_cons.mp step
    have later := ih others (refl service.left) finish
    have reaches : related first service.left := trans start own
    -- What comes after this action is related to what it left, and so to what was before it.
    refine List.pairwise_cons.mpr ⟨fun drawing member => ?_, later⟩
    rcases List.mem_cons.mp member with rfl | after
    · exact reaches
    · exact trans reaches ((List.pairwise_cons.mp later).1 drawing after)

end Served

def Registry.Asked (registry : Registry α) (services : List (Service α)) (action : Action α)
    (given : Drawing α) (reply : Option (Reply α)) : Prop :=
  ∃ last, registry.Gives services last ∧ (last.reply? action given).map (·.2) = reply

-- The point at which a plan is stopped, with what was done before and what is raised.
structure Halt (α : Type) where
  services : List (Service α)
  given : Drawing α
  action : Action α
  rest : List (Action α)
  reply : Option (Reply α)
  left : Drawing α
  entries : List HistoryEntry
  raised : Raised

structure Halted (registry : Registry α) (drawing : Drawing α) (actions : List (Action α))
    (halt : Halt α) : Prop where
  chained : Chained registry.depth drawing halt.services halt.given
  asked : registry.Asked halt.services halt.action halt.given halt.reply
  actions : actions = halt.services.map Service.action ++ halt.action :: halt.rest
  stops : Stops registry.depth halt.services.length halt.action halt.given halt.reply halt.left
    halt.entries halt.raised

namespace Registry

theorem Gives.depth {registry last : Registry α} {services : List (Service α)}
    (given : registry.Gives services last) : last.depth = registry.depth := by
  induction given with
  | nil => rfl
  | cons replied _ ih => exact ih.trans (depth_of_reply replied)

theorem Gives.of_standard [Scalar α] {last : Registry α} {services : List (Service α)}
    (given : Registry.standard.Gives services last) :
    last = .standard ∧
      ∀ service ∈ services, service.action.perform service.given = service.reply := by
  induction services with
  | nil =>
    cases given
    exact ⟨rfl, by simp⟩
  | cons service rest ih =>
    cases given with
    | cons replied later =>
      rw [standard_reply, Option.some.injEq, Prod.mk.injEq] at replied
      obtain ⟨rfl, own⟩ := replied
      obtain ⟨ended, others⟩ := ih later
      exact ⟨ended, List.forall_mem_cons.mpr ⟨own, others⟩⟩

theorem gives_standard [Scalar α] {services : List (Service α)}
    (replies : ∀ service ∈ services, service.action.perform service.given = service.reply) :
    Registry.standard.Gives services .standard := by
  induction services with
  | nil => exact .nil .standard
  | cons service rest ih =>
    obtain ⟨own, others⟩ := List.forall_mem_cons.mp replies
    exact .cons (congrArg some (Prod.ext rfl own)) (ih others)

theorem reply_cases (registry : Registry α) (action : Action α) (drawing : Drawing α) :
    (∃ (service : Service α) (next : Registry α), service.action = action ∧
      service.given = drawing ∧ registry.reply? action drawing = some (next, service.reply) ∧
      service.Passes registry.depth) ∨
    ∀ index, ∃ left entries raised, Stops registry.depth index action drawing
      ((registry.reply? action drawing).map (·.2)) left entries raised := by
  cases replied : registry.reply? action drawing with
  | none => exact .inr fun _ => ⟨_, _, _, .unknown⟩
  | some answered =>
    obtain ⟨next, left, notes, answer⟩ := answered
    cases answer with
    | error raised =>
      cases blamed : raised.blamed? with
      | none => exact .inr fun _ => ⟨_, _, _, .passed left notes blamed⟩
      | some cause => exact .inr fun _ => ⟨_, _, _, .failed left notes blamed⟩
    | ok answer =>
      cases worded : Run.wording left.entities.length registry.depth answer with
      | error fault => exact .inr fun _ => ⟨_, _, _, .unshown left notes worded⟩
      | ok shown =>
        cases accepted : Run.accepted answer with
        | false => exact .inr fun _ => ⟨_, _, _, .rejected left notes accepted worded⟩
        | true =>
          exact .inl ⟨⟨action, drawing, left, notes, answer⟩, next, rfl, rfl, rfl, accepted, _,
            worded⟩

theorem course (registry : Registry α) (drawing : Drawing α) (actions : List (Action α)) :
    (∃ services last reached, Served registry drawing services last reached ∧
      services.map Service.action = actions) ∨
    ∃ halt, Halted registry drawing actions halt := by
  have split : (∃ services last reached, Served registry drawing services last reached ∧
        services.map Service.action = actions) ∨
      ∃ services last given action rest, Served registry drawing services last given ∧
        actions = services.map Service.action ++ action :: rest ∧
        ∀ index, ∃ left entries raised, Stops registry.depth index action given
          ((last.reply? action given).map (·.2)) left entries raised := by
    induction actions generalizing registry drawing with
    | nil => exact .inl ⟨[], registry, drawing, .nil registry drawing, rfl⟩
    | cons action rest ih =>
      rcases registry.reply_cases action drawing with
        ⟨service, next, rfl, rfl, replied, passes⟩ | stops
      · rcases ih next service.left with ⟨services, last, reached, served, rfl⟩ |
          ⟨services, last, given, action, after, served, rfl, stops⟩
        · exact .inl ⟨service :: services, last, reached, served.cons replied passes, rfl⟩
        · exact .inr ⟨service :: services, last, given, action, after,
            served.cons replied passes, rfl, depth_of_reply replied ▸ stops⟩
      · exact .inr ⟨[], registry, drawing, action, rest, .nil registry drawing, rfl, stops⟩
  rcases split with served | ⟨services, last, given, action, rest, served, same, stops⟩
  · exact .inl served
  · obtain ⟨left, entries, raised, stopped⟩ := stops services.length
    exact .inr ⟨⟨services, given, action, rest, _, left, entries, raised⟩, served.chained,
      ⟨last, served.given, rfl⟩, same, stopped⟩

theorem Asked.of_standard [Scalar α] {services : List (Service α)} {action : Action α}
    {given : Drawing α} {reply : Option (Reply α)}
    (asked : Registry.standard.Asked services action given reply) :
    reply = some (action.perform given) := by
  obtain ⟨last, gives, rfl⟩ := asked
  obtain ⟨rfl, -⟩ := gives.of_standard
  rfl

theorem standard_course [Scalar α] (drawing : Drawing α) (actions : List (Action α)) :
    (∃ services reached, Served .standard drawing services .standard reached ∧
      services.map Service.action = actions) ∨
    ∃ services given action rest cause, Served .standard drawing services .standard given ∧
      actions = services.map Service.action ++ action :: rest ∧
      (action.perform given).answer = .error (.fault cause) := by
  rcases Registry.standard.course drawing actions with
    ⟨services, last, reached, served, same⟩ | ⟨halt, halted⟩
  · obtain ⟨rfl, -⟩ := served.given.of_standard
    exact .inl ⟨services, reached, served, same⟩
  · obtain ⟨last, gives, -⟩ := halted.asked
    obtain ⟨rfl, -⟩ := gives.of_standard
    have stops := halted.stops
    rw [halted.asked.of_standard] at stops
    obtain ⟨cause, fault, -⟩ := stops.of_standard
    exact .inr ⟨_, _, _, _, cause, ⟨halted.chained, gives⟩, halted.actions, fault⟩

end Registry

theorem Served.replies [Scalar α] {drawing reached : Drawing α} {services : List (Service α)}
    {last : Registry α} (served : Served .standard drawing services last reached) :
    ∀ service ∈ services, service.action.perform service.given = service.reply :=
  served.given.of_standard.2

namespace Run

theorem receive_served {depth : Nat} {service : Service α} (passes : service.Passes depth)
    (index : Nat) (announced : Progress α) :
    ∃ after, receive depth index service.action (some service.reply) announced = (after, .ok ()) ∧
      after.drawing = service.left ∧ after.history = announced.history ++ [service.entry] := by
  obtain ⟨accepted, words, worded⟩ := passes
  simp only [receive, Service.reply, settle, Progress.take, worded, accepted, if_true]
  exact ⟨_, rfl, rfl, rfl⟩

theorem receive_stops {depth index : Nat} {action : Action α} {given left : Drawing α}
    {reply : Option (Reply α)} {entries : List HistoryEntry} {raised : Raised}
    (stops : Stops depth index action given reply left entries raised) {announced : Progress α}
    (start : announced.drawing = given) :
    ∃ after, receive depth index action reply announced = (after, .error raised) ∧
      after.drawing = left ∧ after.history = announced.history ++ entries := by
  cases stops with
  | unknown => exact ⟨_, rfl, start, by simp⟩
  | rejected left notes refused worded =>
    simp only [receive, settle, Progress.take, worded, refused]
    exact ⟨_, rfl, rfl, by simp⟩
  | unshown left notes hidden =>
    simp only [receive, settle, Progress.take, hidden]
    exact ⟨_, rfl, rfl, by simp⟩
  | failed left notes blamed =>
    simp only [receive, blamed]
    exact ⟨_, rfl, rfl, rfl⟩
  | passed left notes unblamed =>
    simp only [receive, unblamed]
    exact ⟨_, rfl, rfl, by simp [Progress.take]⟩

theorem steps_served {depth : Nat} {drawing reached : Drawing α} {services : List (Service α)}
    (chained : Chained depth drawing services reached) (total index : Nat) {progress : Progress α}
    (start : progress.drawing = drawing) :
    ∃ after, after.drawing = reached ∧
      after.history = progress.history ++ services.map Service.entry ∧
      ∀ registry last : Registry α, registry.depth = depth → registry.Gives services last →
        ∀ rest, steps registry total index progress (services.map Service.action ++ rest) =
          steps last total (index + services.length) after rest := by
  induction chained generalizing index progress with
  | nil drawing =>
    refine ⟨progress, start, by simp, ?_⟩
    intro registry last _ gives rest
    cases gives
    simp
  | @cons service services reached passes _ ih =>
    obtain ⟨next, received, given, history⟩ := receive_served passes index (progress.say _)
    obtain ⟨after, ended, entries, later⟩ := ih (index + 1) given
    refine ⟨after, ended, by simp [entries, history, Progress.say], ?_⟩
    rintro registry last rfl gives rest
    cases gives with
    | @cons _ remembering _ _ _ replied others =>
      have stepped : step registry total index service.action progress =
          (remembering, next, .ok ()) := by
        simp only [step, Progress.say, start, replied]
        exact congrArg (Prod.mk remembering) received
      have place : index + (service :: services).length = index + 1 + services.length := by
        simp only [List.length_cons]
        omega
      rw [List.map_cons, List.cons_append, steps, stepped, place]
      exact later remembering last (Registry.depth_of_reply replied) others rest

theorem steps_stops {depth index : Nat} {action : Action α} {given left : Drawing α}
    {reply : Option (Reply α)} {entries : List HistoryEntry} {raised : Raised}
    (stops : Stops depth index action given reply left entries raised) (total : Nat)
    {progress : Progress α} (start : progress.drawing = given) :
    ∃ after, after.drawing = left ∧ after.history = progress.history ++ entries ∧
      ∀ registry : Registry α, registry.depth = depth →
        (registry.reply? action given).map (·.2) = reply → ∀ rest,
          steps registry total index progress (action :: rest) = (after, .error raised) := by
  subst start
  have announced (line : Text) : (progress.say line).drawing = progress.drawing := rfl
  obtain ⟨after, received, ended, history⟩ := receive_stops stops (announced
    (" [" ++ toString (index + 1) ++ "/" ++ toString total ++ "] " ++ action.kind.name))
  refine ⟨after, ended, history, ?_⟩
  rintro registry rfl replied rest
  rw [← replied] at received
  rw [steps, step]
  simp only [received, announced]

end Run

end DrawingPlan
