import DrawingPlan.Assistant.Commands

set_option autoImplicit false

namespace DrawingPlan.Console

inductive Input where
  | quit
  | draw (request : Text)
  | chat (message : Text)
  | audit
  | list
  | help
  | nothing
deriving DecidableEq, Repr

def splitWord (text : Text) : Text × Text :=
  let space : Symbol := .char ' '
  (⟨text.symbols.takeWhile (· ≠ space)⟩, ⟨(text.symbols.dropWhile (· ≠ space)).drop 1⟩)

def Input.ofLine (line : Text) : Input :=
  let (word, rest) := splitWord line.trim
  let command := word.lower
  if command = "quit" || command = "exit" then .quit
  else if command = "draw" && rest ≠ "" then .draw rest
  else if command = "chat" && rest ≠ "" then .chat rest
  else if command = "audit" then .audit
  else if command = "list" then .list
  else if line.isBlank then .nothing
  else .help

def help : String :=
  "Commands: draw <request> | chat <message> | audit | list | quit"

def prompt : String := "> "

def column (n : Nat) : String :=
  let ds := toString n
  String.ofList (List.replicate (3 - ds.length) ' ') ++ ds

def listing (drawing : Drawing Float) : List Text :=
  let live := drawing.liveEntities
  ("\n=== Model space: " ++ toString live.length ++ " entities ===") ::
    live.zipIdx.map fun (entity, i) => " " ++ column (i + 1) ++ ". " ++ entity.describe

def printed (lines : List Text) : Text :=
  .join (lines.map (· ++ "\n"))

structure Ending where
  output : Text
  notes : List Note := []
  code : Except Raised Nat

variable [Json.Nesting]

def runPlan (text : Text) : Ending :=
  let (effects, outcome) := Command.apply (some text) .empty
  match outcome with
  | .error raised => ⟨printed effects.report, effects.notes, .error raised⟩
  | .ok outcome =>
    ⟨printed (effects.report ++ outcome.message :: listing effects.drawing), effects.notes,
      .ok (if outcome.ok then 0 else 1)⟩

def question? (drawing : Drawing Float) : Input → Option (Completion.Purpose × Text)
  | .draw request => some (.plan, Command.drawPrompt drawing request)
  | .chat message => some (.chat, Command.chatPrompt drawing message)
  | _ => none

structure Response where
  drawing : Drawing Float
  lines : List Text
  notes : List Note := []
  raised : Option Raised := none

def respond (required : List Text) (drawing : Drawing Float) (reply : Completion.ServiceReply) :
    Input → Response
  | .draw _ =>
    let (effects, messages) := Command.draw (Completion.answer .plan reply) drawing
    match messages with
    | .ok messages => ⟨effects.drawing, effects.report ++ messages, effects.notes, none⟩
    | .error raised => ⟨effects.drawing, effects.report, effects.notes, some raised⟩
  | .chat _ => { drawing, lines := [Command.chat (Completion.answer .chat reply)] }
  | .audit => { drawing, lines := Command.audit drawing required }
  | .list => { drawing, lines := listing drawing }
  | .help => { drawing, lines := [help] }
  | .quit | .nothing => { drawing, lines := [] }

structure Transcript where
  output : Text
  questions : List Text
  code : Except Raised Nat

def nextReply : List Completion.ServiceReply → Completion.ServiceReply
  | [] => .content (some "")
  | reply :: _ => reply

def converse (required : List Text) (drawing : Drawing Float)
    (replies : List Completion.ServiceReply) : List Text → Transcript
  | [] => ⟨prompt, [], .ok 0⟩
  | line :: rest =>
    match Input.ofLine line with
    | .quit => ⟨prompt, [], .ok 0⟩
    | input =>
      let asked := question? drawing input
      let response := respond required drawing (nextReply replies) input
      let questions := asked.toList.map (·.2)
      let shown := prompt ++ printed response.lines
      match response.raised with
      | some raised => ⟨shown, questions, .error raised⟩
      | none =>
        let left := if asked.isSome then replies.drop 1 else replies
        let later := converse required response.drawing left rest
        ⟨shown ++ later.output, questions ++ later.questions, later.code⟩

def linesOf (text : Text) : List Text :=
  let lines := text.splitOn '\n'
  if lines.getLast? = some "" then lines.dropLast else lines

def runInteractive (required : List Text) (key : Except ApiKey.Failure Text)
    (replies : List Completion.ServiceReply) (text : Text) : Transcript :=
  match key with
  | .error failure => ⟨printed ["[API KEY ERROR] " ++ failure.message], [], .ok 1⟩
  | .ok _ =>
    let transcript := converse required .empty replies (linesOf text)
    { transcript with output := printed [help] ++ transcript.output }

end DrawingPlan.Console
