import DrawingPlan.Fault
import DrawingPlan.Json.Token

set_option autoImplicit false

namespace DrawingPlan.Json

structure Place where
  line : Nat
  column : Nat
  offset : Nat
deriving DecidableEq, Repr

def Place.ofOffset (symbols : List Symbol) (offset : Nat) : Place :=
  let before := symbols.take offset
  let lastLine := before.reverse.takeWhile (· ≠ .char '\n')
  ⟨before.count (.char '\n') + 1, lastLine.length + 1, offset⟩

inductive Container where
  | list
  | object
deriving DecidableEq, Repr

inductive ReadFault where
  | malformed (what : Malformation) (place : Place)
  | longInteger (digits : Nat)
  | tooDeep (container : Container)
deriving DecidableEq, Repr

def ReadFault.message : ReadFault → String
  | .malformed what place =>
    what.message ++ ": line " ++ toString place.line ++ " column " ++ toString place.column ++
      " (char " ++ toString place.offset ++ ")"
  | .longInteger digits => tooManyDigits digits
  | .tooDeep container =>
    "maximum recursion depth exceeded while decoding a JSON " ++
      (match container with | .list => "array" | .object => "object") ++ " from a unicode string"

/-- How deep containers may be nested, which depends on the stack that is left to the reader. -/
class Nesting where
  deepest : Nat

export Nesting (deepest)

instance Nesting.usual : Nesting where
  deepest := 990

inductive Frame where
  | list (items : List Json)
  | object (fields : List (Text × Json)) (key : Text)

inductive Waiting where
  | forValue (stack : List Frame)
  | forItem (stack : List Frame)
  | forKey (stack : List Frame) (fields : List (Text × Json)) (opened : Bool)
  | forColon (stack : List Frame) (fields : List (Text × Json)) (key : Text)
  | forNext (stack : List Frame) (frame : Frame)
  | forEnd (json : Json)

inductive Trouble where
  | malformed (what : Malformation) (offset : Nat)
  | longInteger (digits : Nat)
  | tooDeep (container : Container)

def settle (json : Json) : List Frame → Waiting
  | [] => .forEnd json
  | .list items :: stack => .forNext stack (.list (json :: items))
  | .object fields key :: stack => .forNext stack (.object ((key, json) :: fields) key)

variable [Nesting]

def enter (container : Container) (stack : List Frame) : Except Trouble (List Frame) :=
  if stack.length < deepest then .ok stack else .error (.tooDeep container)

def takeValue (stack : List Frame) (located : Located) : Except Trouble Waiting :=
  match located.token with
  | .value json => .ok (settle json stack)
  | .openList => return .forItem (← enter .list stack)
  | .openObject => return .forKey (← enter .object stack) [] true
  | .longInteger digits => .error (.longInteger digits)
  | .brokenString fault offset => .error (.malformed fault (located.position + offset))
  | _ => .error (.malformed .noValue located.position)

def step (waiting : Waiting) (located : Located) : Except Trouble Waiting :=
  match waiting, located.token with
  | .forValue stack, _ => takeValue stack located
  | .forItem stack, .closeList => .ok (settle (.list []) stack)
  | .forItem stack, _ => takeValue (.list [] :: stack) located
  | .forKey stack [] true, .closeObject => .ok (settle (.object []) stack)
  | .forKey stack fields _, .value (.text key) => .ok (.forColon stack fields key)
  | .forKey .., .brokenString fault offset =>
    .error (.malformed fault (located.position + offset))
  | .forKey .., _ => .error (.malformed .noKey located.position)
  | .forColon stack fields key, .colon => .ok (.forValue (.object fields key :: stack))
  | .forColon .., _ => .error (.malformed .noColon located.position)
  | .forNext stack (.list items), .comma => .ok (.forValue (.list items :: stack))
  | .forNext stack (.list items), .closeList => .ok (settle (.list items.reverse) stack)
  -- After a comma the object may not be closed before it has another field.
  | .forNext stack (.object fields _), .comma => .ok (.forKey stack fields false)
  | .forNext stack (.object fields _), .closeObject =>
    .ok (settle (ofFields fields.reverse) stack)
  | .forNext .., _ => .error (.malformed .noComma located.position)
  | .forEnd _, _ => .error (.malformed .extraData located.position)

def finish (size : Nat) : Waiting → Except Trouble Json
  | .forEnd json => .ok json
  | .forValue _ | .forItem _ => .error (.malformed .noValue size)
  | .forKey .. => .error (.malformed .noKey size)
  | .forColon .. => .error (.malformed .noColon size)
  | .forNext .. => .error (.malformed .noComma size)

def readTokens (symbols : List Symbol) : Except Trouble Json :=
  match symbols with
  | .char '\uFEFF' :: _ => .error (.malformed .byteOrderMark 0)
  | _ => do
    let waiting ← (tokens symbols).foldlM step (.forValue [])
    finish symbols.length waiting

def read (text : Text) : Except ReadFault Json :=
  (readTokens text.symbols).mapError fun
    | .malformed what offset => .malformed what (Place.ofOffset text.symbols offset)
    | .longInteger digits => .longInteger digits
    | .tooDeep container => .tooDeep container

end DrawingPlan.Json
