import DrawingPlan.Entries

set_option autoImplicit false

namespace DrawingPlan

inductive Json where
  | null
  | bool (b : Bool)
  | integer (n : Int)
  | real (x : Float)
  | text (t : Text)
  | list (items : List Json)
  | object (fields : List (Text × Json))
deriving Inhabited

namespace Json

def ofFields (fields : List (Text × Json)) : Json :=
  .object (fields.foldl (fun known field => putEntry field.1 field.2 known) [])

def field? (json : Json) (key : Text) : Option Json :=
  match json with
  | .object fields => fields.lookup key
  | _ => none

def field (json : Json) (key : Text) : Json :=
  (json.field? key).getD .null

def typeName : Json → String
  | .null => "NoneType"
  | .bool _ => "bool"
  | .integer _ => "int"
  | .real _ => "float"
  | .text _ => "str"
  | .list _ => "list"
  | .object _ => "dict"

def truthy : Json → Bool
  | .null => false
  | .bool b => b
  | .integer n => n ≠ 0
  | .real x => !(x == 0.0)
  | .text t => t ≠ ""
  | .list items => !items.isEmpty
  | .object fields => !fields.isEmpty

end Json

end DrawingPlan
