import DrawingPlan.Journal
import DrawingPlan.Json.Reader
import DrawingPlan.Json.Shown
import DrawingPlan.Plan.Fence
import DrawingPlan.Plan.ActionReading

set_option autoImplicit false

namespace DrawingPlan

inductive Skip where
  | notObject (item : Json)
  | noKind
  | unknownKind (kind : Text)
  | malformedFilter (kind : Text) (typeName : String)

def Skip.message : Skip → Text
  | .notObject item => "skipping non-object action " ++ item.shown
  | .noKind => "skipping action without a string 'action' field"
  | .unknownKind kind => "skipping unknown action " ++ kind.quoted
  | .malformedFilter kind typeName => "skipping " ++ kind ++ ": " ++ Field.malformedFilter typeName

def Skip.note (skip : Skip) : Note :=
  ⟨.decoding, .debug, skip.message⟩

inductive DecodeError where
  | empty
  | notJson (fault : Json.ReadFault)
  | wrongRoot
deriving DecidableEq, Repr

namespace DecodeError

def message : DecodeError → String
  | .empty => "Empty plan from AI."
  | .notJson fault => "Invalid JSON plan: " ++ fault.message
  | .wrongRoot => "Invalid JSON plan: root is not object or array."

def reason : DecodeError → String
  | .empty => "empty"
  | .notJson _ => "invalid_json"
  | .wrongRoot => "invalid_root"

end DecodeError

abbrev ItemResult := Except Fault (Except Skip (Action Float))

def withFilter (kind : Text) (obj : Json)
    (build : Option (Filter Float) → Except Fault (Action Float)) : ItemResult :=
  match Field.filter obj with
  | .error typeName => .ok (.error (.malformedFilter kind typeName))
  | .ok filter => (build filter).map .ok

namespace Action

def readAs (kind : Text) (obj : Json) : ActionKind → ItemResult
  | .line => .ok (.ok (.line (.read obj)))
  | .polyline => .ok (.ok (.polyline (.read obj)))
  | .rectangle => .ok (.ok (.rectangle (.read obj)))
  | .circle => .ok (.ok (.circle (.read obj)))
  | .polygon => (DrawPolygon.read? obj).map fun action => .ok (.polygon action)
  | .insertBlock => .ok (.ok (.insertBlock (.read obj)))
  | .move => withFilter kind obj fun filter => .ok (.move (.read filter obj))
  | .rotate => withFilter kind obj fun filter => .ok (.rotate (.read filter obj))
  | .scale => withFilter kind obj fun filter => .ok (.scale (.read filter obj))
  | .erase => withFilter kind obj fun filter => .ok (.erase ⟨filter⟩)
  | .changeLayer => withFilter kind obj fun filter => .ok (.changeLayer (.read filter obj))
  | .changeProperties =>
    withFilter kind obj fun filter => (ChangeProperties.read? filter obj).map .changeProperties

def kindOf? (written : Text) : Option ActionKind :=
  ActionKind.ofName? written.trim.lower

def decode (item : Json) : ItemResult :=
  match item with
  | .object fields =>
    match (Json.object fields).field "action" with
    | .text written =>
      match kindOf? written with
      | some kind => readAs written (.object fields) kind
      | none => .ok (.error (.unknownKind written))
    | _ => .ok (.error .noKind)
  | other => .ok (.error (.notObject other))

end Action

structure Decoded where
  skipped : List Skip
  actions : Except Fault (List (Action Float))

namespace Decoded

def notes (decoded : Decoded) : List Note :=
  decoded.skipped.map Skip.note

def ofItems : List Json → Decoded
  | [] => ⟨[], .ok []⟩
  | item :: rest =>
    match Action.decode item with
    -- Nothing is read after a fault, so that later items leave no note.
    | .error fault => ⟨[], .error fault⟩
    | .ok (.error skip) =>
      let decoded := ofItems rest
      ⟨skip :: decoded.skipped, decoded.actions⟩
    | .ok (.ok action) =>
      let decoded := ofItems rest
      ⟨decoded.skipped, decoded.actions.map (action :: ·)⟩

end Decoded

namespace Plan

def itemsOf (root : Json) : Except DecodeError (List Json) :=
  match root with
  | .list items => .ok items
  | .object fields => .ok [.object fields]
  | _ => .error .wrongRoot

def documentOf [Json.Nesting] (payload : Text) : Except DecodeError (List Json) := do
  if payload = "" then throw .empty
  let root ← (Json.read payload).mapError .notJson
  itemsOf root

end Plan

inductive PlanFault where
  | refused (error : DecodeError)
  | fault (fault : Fault)
deriving DecidableEq, Repr

structure Reading where
  notes : List Note
  plan : Except PlanFault (Plan Float)

def Plan.decode [Json.Nesting] (text : Option Text) : Reading :=
  match documentOf (Fence.strip (text.getD "")) with
  | .error error => ⟨[], .error (.refused error)⟩
  | .ok items =>
    let decoded := Decoded.ofItems items
    match decoded.actions with
    | .error fault => ⟨decoded.notes, .error (.fault fault)⟩
    | .ok actions => ⟨decoded.notes, .ok ⟨actions⟩⟩

end DrawingPlan
