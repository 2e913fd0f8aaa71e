import DrawingPlan.Execution.Creation
import DrawingPlan.Execution.Editing

set_option autoImplicit false

namespace DrawingPlan

variable {α : Type}

def Action.perform [Scalar α] : Action α → Drawing α → Reply α
  | .line action, drawing => action.perform drawing
  | .polyline action, drawing => action.perform drawing
  | .rectangle action, drawing => action.perform drawing
  | .circle action, drawing => action.perform drawing
  | .polygon action, drawing => action.perform drawing
  | .insertBlock action, drawing => action.perform drawing
  | .move action, drawing => action.perform drawing
  | .rotate action, drawing => action.perform drawing
  | .scale action, drawing => action.perform drawing
  | .erase action, drawing => action.perform drawing
  | .changeLayer action, drawing => action.perform drawing
  | .changeProperties action, drawing => action.perform drawing

def Registry.standard [Scalar α] : Registry α :=
  .ofHandlers fun _ => some Action.perform

inductive HistoryEntry where
  | done (kind : ActionKind) (answer : Json)
  | failed (kind : ActionKind) (error : Text)

structure Progress (α : Type) where
  drawing : Drawing α
  report : List Text := []
  history : List HistoryEntry := []
  notes : List Note := []

namespace Progress

def say (progress : Progress α) (line : Text) : Progress α :=
  { progress with report := progress.report ++ [line] }

def record (progress : Progress α) (entry : HistoryEntry) : Progress α :=
  { progress with history := progress.history ++ [entry] }

def take (progress : Progress α) (reply : Reply α) : Progress α :=
  { progress with drawing := reply.drawing, notes := progress.notes ++ reply.notes }

end Progress

namespace Run

def accepted (answer : Json) : Bool :=
  (answer.field "ok").truthy

def summary (counted depth : Nat) (answer : Json) : Except Fault Text :=
  match answer.field? "created", answer.field? "affected" with
  | some count, _ => return "(created " ++ (← count.render counted depth) ++ ")"
  | none, some count => return "(affected " ++ (← count.render counted depth) ++ ")"
  | none, none => return ""

def reasonNotes (counted depth index : Nat) (kind : ActionKind) (answer : Json) : List Note :=
  let reason := answer.field "reason"
  if reason.truthy then
    match reason.render counted depth with
    | .ok shown =>
      [⟨.execution, .debug, ExecutionError.numbered index kind ++ " skipped: " ++ shown⟩]
    -- The log drops what it cannot show.
    | .error _ => []
  else []

def wording (counted depth : Nat) (answer : Json) : Except Fault Text :=
  if accepted answer then summary counted depth answer else answer.render counted depth

def settle (depth index : Nat) (kind : ActionKind) (answer : Json) (progress : Progress α) :
    Progress α × Except Raised Unit :=
  let counted := progress.drawing.entities.length
  let reasons := if accepted answer then reasonNotes counted depth index kind answer else []
  let noted := { progress with notes := progress.notes ++ reasons }
  match wording counted depth answer with
  | .error fault => (noted, .error (.fault fault))
  | .ok words =>
    if accepted answer then ((noted.say ("  → ok " ++ words)).record (.done kind answer), .ok ())
    else (noted, .error (.execution (.rejected index kind words)))

def receive (depth index : Nat) (action : Action α) (reply : Option (Reply α))
    (progress : Progress α) : Progress α × Except Raised Unit :=
  let kind := action.kind
  match reply with
  | none => (progress, .error (.execution (.unknownAction index kind)))
  | some reply =>
    let taken := progress.take reply
    match reply.answer with
    | .ok answer => settle depth index kind answer taken
    | .error raised =>
      match raised.blamed? with
      | some fault =>
        (taken.record (.failed kind fault.message), .error (.execution (.failed index kind fault)))
      -- What is not blamed on the action is passed on as it is.
      | none => (taken, .error raised)

def step (registry : Registry α) (total index : Nat) (action : Action α) (progress : Progress α) :
    Registry α × Progress α × Except Raised Unit :=
  let announced := progress.say
    (" [" ++ toString (index + 1) ++ "/" ++ toString total ++ "] " ++ action.kind.name)
  let replied := registry.reply? action announced.drawing
  ((replied.map (·.1)).getD registry,
    receive registry.depth index action (replied.map (·.2)) announced)

def steps (registry : Registry α) (total index : Nat) (progress : Progress α) :
    List (Action α) → Progress α × Except Raised Unit
  | [] => (progress, .ok ())
  | action :: rest =>
    match step registry total index action progress with
    | (_, reached, .error raised) => (reached, .error raised)
    | (next, reached, .ok ()) => steps next total (index + 1) reached rest

def close (progress : Progress α) : Progress α × Except Raised Unit :=
  match progress.drawing.commit? with
  | .error error => (progress, .error (.transaction error))
  | .ok drawing => ({ progress with drawing }.say "✅ Plan executed", .ok ())

def abandon (raised : Raised) (progress : Progress α) : Progress α × Except Raised Unit :=
  match progress.drawing.rollback? with
  | .error error => (progress, .error (.transaction error))
  | .ok drawing =>
    let restored :=
      { progress with drawing, notes := progress.notes ++ progress.drawing.rollbackNotes }
    (restored.say "↩ Plan rolled back, drawing unchanged", .error raised)

end Run

def Plan.run (registry : Registry α) (plan : Plan α) (drawing : Drawing α) :
    Progress α × Except Raised Unit :=
  let total := plan.actions.length
  let opening := "🚀 Executing plan: " ++ toString total ++ " action(s)"
  match drawing.begin? with
  | .error error => ({ drawing, report := [opening] }, .error (.execution (.busy error)))
  | .ok started =>
    match Run.steps registry total 0 { drawing := started, report := [opening] } plan.actions with
    | (reached, .ok ()) => Run.close reached
    | (reached, .error raised) => Run.abandon raised reached

end DrawingPlan
