import DrawingPlan.Drawing.Layers
import DrawingPlan.Json.Reader
import DrawingPlan.Number.FloatText
import DrawingPlan.Text.Blank
import DrawingPlan.Text.Quoted
import DrawingPlan.Text.Utf8

set_option autoImplicit false

namespace DrawingPlan

abbrev Environment := String → Option Text

structure Settings where
  apiUrl : Text
  model : Text
  temperature : Float
  logLevel : Text
  requiredLayers : List Text

namespace Settings

def requiredByDefault : String := "WIRE,TITLE"

structure BadTemperature where
  written : Text

def BadTemperature.message (fault : BadTemperature) : String :=
  "could not convert string to float: " ++ fault.written.quoted

def namesIn (list : Text) : List Text :=
  ((list.splitOn ',').map Text.trim).filter Text.nonEmpty

def ofEnvironment (env : Environment) : Except BadTemperature Settings := do
  let temperature := (env "CADAGENT_TEMPERATURE").getD "0.1"
  let some value := Number.readFloat? temperature | throw ⟨temperature⟩
  return {
    apiUrl := (env "CADAGENT_API_URL").getD "https://api.perplexity.ai"
    model := (env "CADAGENT_MODEL").getD "sonar"
    temperature := value
    logLevel := (env "CADAGENT_LOG_LEVEL").getD "WARNING"
    requiredLayers := namesIn ((env "CADAGENT_REQUIRED_LAYERS").getD requiredByDefault) }

def standardLayers : List Text :=
  namesIn requiredByDefault

end Settings

namespace ApiKey

def settingsFile : String := "appsettings.local.json"

def variableName : String := "PPLX_API_KEY"

inductive Failure where
  | notConfigured
  | tooDeep (container : Json.Container)
deriving DecidableEq, Repr

def Failure.message : Failure → String
  | .notConfigured =>
    "API key not configured. Create " ++ settingsFile ++ " with Perplexity.ApiKey " ++
      "next to the cadagent package or set the " ++ variableName ++ " environment variable."
  | .tooDeep container => (Json.ReadFault.tooDeep container).message

def nonblank? (text : Text) : Option Text :=
  if text.isBlank then none else some text.trim

def inSettings (root : Json) : Option Text :=
  match (root.field "Perplexity").field "ApiKey" with
  | .text key => nonblank? key
  | _ => none

variable [Json.Nesting]

def inFile (bytes : List Nat) : Except Failure (Option Text) :=
  match Text.ofFile bytes with
  | .error _ => .ok none
  | .ok text =>
    match Json.read text with
    | .ok root => .ok (inSettings root)
    | .error (.tooDeep container) => .error (.tooDeep container)
    | .error _ => .ok none

def resolve (file : Option (List Nat)) (environment : Option Text) : Except Failure Text := do
  let fromFile ← match file with
    | none => .ok none
    | some bytes => inFile bytes
  match fromFile.or (environment.bind nonblank?) with
  | some key => return key
  | none => throw .notConfigured

end ApiKey

end DrawingPlan
