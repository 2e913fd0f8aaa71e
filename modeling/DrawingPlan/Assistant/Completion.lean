import DrawingPlan.Assistant.Prompt
import DrawingPlan.Assistant.Settings

set_option autoImplicit false

namespace DrawingPlan

inductive TransportError where
  | service (kind : String) (text : Text)
  | noChoices
  | declared (text : Text)
deriving DecidableEq, Repr

def TransportError.message : TransportError → Text
  | .service kind text => kind ++ ": " ++ text
  | .noChoices => "completion returned no choices"
  | .declared text => text

namespace Completion

structure Request where
  model : Text
  temperature : Float
  system : String
  user : Text

inductive ServiceReply where
  | content (text : Option Text)
  | noChoices
  | failure (kind : String) (text : Text)

inductive Purpose where
  | plan
  | chat
deriving DecidableEq, Repr

def Purpose.prompt : Purpose → String
  | .plan => Prompt.planner
  | .chat => Prompt.chat

def request (settings : Settings) (purpose : Purpose) (user : Text) : Request where
  model := settings.model
  temperature := settings.temperature
  system := purpose.prompt
  user := user

def answer (purpose : Purpose) : ServiceReply → Except TransportError Text
  | .failure kind text => .error (.service kind text)
  | .noChoices => .error .noChoices
  | .content text =>
    let trimmed := Text.trim (text.getD "")
    .ok (if purpose = .chat && trimmed = "" then "(no content)" else trimmed)

end Completion

end DrawingPlan
