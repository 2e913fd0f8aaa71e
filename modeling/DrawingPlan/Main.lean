import DrawingPlan.Assistant.Console
import DrawingPlan.Assistant.Logging

set_option autoImplicit false

namespace DrawingPlan

structure Options where
  plan : Option String := none
  logLevel : Option Text := none

def Options.parse? : List String → Option Options
  | [] => some {}
  | "--plan" :: file :: rest => (parse? rest).map fun options => { options with plan := some file }
  | "--log-level" :: level :: rest =>
    (parse? rest).map fun options => { options with logLevel := some level }
  | _ => none

def printNotes (threshold : Int) (notes : List Note) : IO Unit :=
  for note in notes do
    if threshold ≤ note.level.number then
      IO.println (note.channel.name ++ " - " ++ note.level.name ++ " - " ++ note.text)

def readBytes (file : String) : IO (List Nat) := do
  let bytes ← IO.FS.readBinFile file
  return bytes.toList.map UInt8.toNat

def settingsBytes : IO (Option (List Nat)) :=
  try
    let bytes ← readBytes ApiKey.settingsFile
    return some bytes
  catch _ => return none

def environmentVariable? (name : String) : IO (Option Text) := do
  return (← IO.getEnv name).map Text.ofString

def exitCode (threshold : Int) (ending : Console.Ending) : IO UInt32 := do
  IO.print ending.output
  printNotes threshold ending.notes
  match ending.code with
  | .ok code => return UInt32.ofNat code
  | .error _ => return 1

partial def loop (threshold : Int) (required : List Text) (drawing : Drawing Float) :
    IO UInt32 := do
  IO.print Console.prompt
  (← IO.getStdout).flush
  let line ← (← IO.getStdin).getLine
  if line.isEmpty then return 0
  match Console.Input.ofLine line with
  | .quit => return 0
  | input =>
    let reply := .failure "APIConnectionError" "Connection error."
    let response := Console.respond required drawing reply input
    IO.print (Console.printed response.lines)
    printNotes threshold response.notes
    if response.raised.isSome then return 1
    loop threshold required response.drawing

def runProgram (options : Options) (settings : Settings) : IO UInt32 := do
  let threshold := (LogLevel.name (options.logLevel.getD settings.logLevel)).resolve
  match options.plan with
  | some file =>
    match Text.ofFile (← readBytes file) with
    | .error fault => IO.eprintln fault.message; return 1
    | .ok text => exitCode threshold (Console.runPlan text)
  | none =>
    match ApiKey.resolve (← settingsBytes) (← environmentVariable? ApiKey.variableName) with
    | .error failure => IO.println ("[API KEY ERROR] " ++ failure.message); return 1
    | .ok _ =>
      IO.println Console.help
      loop threshold settings.requiredLayers .empty

def environment : IO Environment := do
  let names := ["CADAGENT_API_URL", "CADAGENT_MODEL", "CADAGENT_TEMPERATURE", "CADAGENT_LOG_LEVEL",
    "CADAGENT_REQUIRED_LAYERS"]
  let values ← names.mapM fun name => return (name, ← environmentVariable? name)
  return fun name => (values.lookup name).join

end DrawingPlan

def main (args : List String) : IO UInt32 := do
  let values ← DrawingPlan.environment
  match DrawingPlan.Options.parse? args, DrawingPlan.Settings.ofEnvironment values with
  | some options, .ok settings => DrawingPlan.runProgram options settings
  | none, _ =>
    IO.eprintln "usage: [--plan FILE] [--log-level LEVEL]"
    return 2
  | _, .error fault =>
    IO.eprintln fault.message
    return 1
