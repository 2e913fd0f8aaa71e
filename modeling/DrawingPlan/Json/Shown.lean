import DrawingPlan.Fault
import DrawingPlan.Json.Basic
import DrawingPlan.Number.Decimal
import DrawingPlan.Number.Layout
import DrawingPlan.Text.Quoted

set_option autoImplicit false

namespace DrawingPlan.Json

mutual

def shown : Json → String
  | .null => "None"
  | .bool b => if b then "True" else "False"
  | .integer n => toString n
  | .real x => Number.exactText x
  | .text t => t.quoted
  | .list items => "[" ++ ", ".intercalate (shownItems items) ++ "]"
  | .object fields => "\x7b" ++ ", ".intercalate (shownFields fields) ++ "\x7d"

def shownItems : List Json → List String
  | [] => []
  | item :: rest => shown item :: shownItems rest

def shownFields : List (Text × Json) → List String
  | [] => []
  | (key, value) :: rest => (key.quoted ++ ": " ++ shown value) :: shownFields rest

end

def plain : Json → Text
  | .text t => t
  | json => json.shown

section Render

-- No list in memory is so long that its length, which is at most `counted`, could not be shown.
variable (counted : Nat)

mutual

/-- What keeps a value from being shown, if it may nest containers to the depth of `room`. -/
def hindrance? (room : Nat) : Json → Option Fault
  | .integer n =>
    if counted < n.natAbs ∧ Number.digitLimit < Number.decimalLength n.natAbs then some .longNumber
    else none
  | .list items =>
    match room with
    | 0 => some .deepValue
    | room + 1 => hindranceOfItems? room items
  | .object fields =>
    match room with
    | 0 => some .deepValue
    | room + 1 => hindranceOfFields? room fields
  | _ => none

def hindranceOfItems? (room : Nat) : List Json → Option Fault
  | [] => none
  | item :: rest => (hindrance? room item).or (hindranceOfItems? room rest)

def hindranceOfFields? (room : Nat) : List (Text × Json) → Option Fault
  | [] => none
  | (_, value) :: rest => (hindrance? room value).or (hindranceOfFields? room rest)

end

def render (room : Nat) (json : Json) : Except Fault Text :=
  match json.hindrance? counted room with
  | some fault => .error fault
  | none => .ok json.plain

end Render

end DrawingPlan.Json
