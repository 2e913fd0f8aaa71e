import DrawingPlan.Assistant.Completion
import DrawingPlan.Drawing.Survey
import DrawingPlan.Execution.Run
import DrawingPlan.Plan.Decoding

set_option autoImplicit false

namespace DrawingPlan

inductive CommandError where
  | decode (error : DecodeError)
  | execution (error : ExecutionError)

def CommandError.message : CommandError → Text
  | .decode error => error.message
  | .execution error => error.message

structure Outcome where
  ok : Bool
  message : Text
  actions : Nat := 0
  error : Option CommandError := none

namespace Command

def said (text : Text) : Text :=
  "[CADAssistant]" ++ text

structure Effects where
  drawing : Drawing Float
  report : List Text := []
  notes : List Note := []

def carryOut (plan : Plan Float) (notes : List Note) (drawing : Drawing Float) :
    Effects × Except Raised Outcome :=
  let (progress, ended) := plan.run .standard drawing
  let effects : Effects := ⟨progress.drawing, progress.report, notes ++ progress.notes⟩
  match ended with
  | .ok () =>
    let count := plan.actions.length
    (effects, .ok { ok := true, message := said " Plan executed.", actions := count })
  | .error (.execution error) =>
    let note : Note := ⟨.commands, .warning, "plan execution failed: " ++ error.message⟩
    ({ effects with notes := effects.notes ++ [note] },
      .ok {
        ok := false
        message := said (" Error executing plan: " ++ error.message)
        actions := plan.actions.length
        error := some (.execution error) })
  | .error raised => (effects, .error raised)

variable [Json.Nesting]

def apply (text : Option Text) (drawing : Drawing Float) : Effects × Except Raised Outcome :=
  let reading := Plan.decode text
  match reading.plan with
  | .ok plan => carryOut plan reading.notes drawing
  | .error (.fault fault) => ({ drawing, notes := reading.notes }, .error (.fault fault))
  | .error (.refused error) =>
    ({ drawing, notes := reading.notes },
      .ok { ok := false, message := said (" " ++ error.message), error := some (.decode error) })

def drawPrompt (drawing : Drawing Float) (request : Text) : Text :=
  "Drawing context:\n" ++ drawing.description ++ "\nUser request: " ++ request

def chatPrompt (drawing : Drawing Float) (message : Text) : Text :=
  "Drawing context:\n" ++ drawing.description ++ "\nUser: " ++ message

def draw (answer : Except TransportError Text) (drawing : Drawing Float) :
    Effects × Except Raised (List Text) :=
  match drawing.liveKinds, answer with
  -- The prompt counts the kinds, so that without them the model is not even asked.
  | .error fault, _ => ({ drawing }, .error (.fault fault))
  | .ok _, .error error => ({ drawing }, .ok [said (" " ++ error.message)])
  | .ok _, .ok raw =>
    if raw.isBlank then ({ drawing }, .ok [said " Empty plan from AI."])
    else
      let (effects, outcome) := apply (some raw) drawing
      (effects, outcome.map fun outcome =>
        [said (" Plan JSON (raw):\n" ++ raw), outcome.message])

def chat (answer : Except TransportError Text) : Text :=
  match answer with
  | .error error => said ("\n" ++ error.message)
  | .ok text => said ("\n" ++ text)

def audit (drawing : Drawing Float) (required : List Text) : List Text :=
  drawing.auditLayers required ++ [("Layer audit finished." : Text)]

end Command

end DrawingPlan
