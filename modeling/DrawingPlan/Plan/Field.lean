import DrawingPlan.Json.Basic
import DrawingPlan.Number.Decimal
import DrawingPlan.Plan.Action
import DrawingPlan.Text.Blank

set_option autoImplicit false

namespace DrawingPlan.Field

open DrawingPlan.Number

def finite? (x : Float) : Option Float :=
  if isFinite x then some x else none

def number? : Json → Option Float
  | .integer n => finite? (Decimal.ofInt n).toFloat
  | .real x => finite? x
  | .text t => (Numeral.read? t.trim.symbols).bind fun numeral => finite? numeral.toFloat
  | _ => none

def integer? : Json → Except Fault (Option Int)
  | .integer n => .ok (some n)
  | .real x => .ok (if isFinite x && isIntegral x then truncate? x else none)
  | .text t =>
    match readInteger? t.trim.symbols with
    | none => .ok none
    | some (negative, digits) =>
      match integerOf negative digits with
      | .error count => .error (.digits count)
      | .ok n => .ok (some n)
  | _ => .ok none

def number (obj : Json) (key : Text) (fallback : Float) : Float :=
  (number? (obj.field key)).getD fallback

def text? (obj : Json) (key : Text) : Option Text :=
  match obj.field key with
  | .text t => if t.isBlank then none else some t
  | _ => none

def layerName (obj : Json) : Text :=
  (text? obj "layer").getD defaultLayer

/-- A list of two numbers. A short list keeps coordinates of the fallback; a bad one is dropped. -/
def pointOf (fallback : Point Float) : Json → Point Float
  | .list [] => fallback
  | .list [a] =>
    match number? a with
    | some x => ⟨x, fallback.y⟩
    | none => fallback
  | .list (a :: b :: _) =>
    match number? a, number? b with
    | some x, some y => ⟨x, y⟩
    | _, _ => fallback
  | _ => fallback

def point (obj : Json) (key : Text) (fallback : Point Float) : Point Float :=
  pointOf fallback (obj.field key)

def corners : Nat → List Json → List (Point Float)
  | wanted + 1, .list coordinates :: rest =>
    pointOf Point.origin (.list coordinates) :: corners wanted rest
  -- Whatever is no list counts for no corner.
  | wanted + 1, _ :: rest => corners (wanted + 1) rest
  | _, _ => []

def window (items : List Json) : Point Float × Point Float :=
  match corners 2 items with
  | a :: b :: _ => (a, b)
  | [a] => (a, Point.origin)
  | [] => (Point.origin, Point.origin)

def window? : Json → Option (Point Float × Point Float)
  | .list items => some (window items)
  | _ => none

def attributeTexts (obj : Json) : List (Text × Text) :=
  match obj.field "attributes" with
  | .object fields =>
    fields.filterMap fun
      | (tag, .text value) => some (tag, value)
      | _ => none
  | _ => []

def anyText? : Json → Option Text
  | .text t => some t
  | _ => none

/--
The filter of an editing action, if there is one. What is neither an object nor null selects nothing
that could be relied on; its type is reported.
-/
def filter (obj : Json) : Except String (Option (Filter Float)) :=
  match obj.field "filter" with
  | .null => .ok none
  | .object fields =>
    let value := Json.object fields
    .ok (some {
      layer := anyText? (value.field "layer")
      kind := anyText? (value.field "type")
      window := window? (value.field "window")
      crossing := window? (value.field "crossing") })
  | other => .error other.typeName

def malformedFilter (typeName : String) : String :=
  "filter must be an object, got " ++ typeName

end DrawingPlan.Field
