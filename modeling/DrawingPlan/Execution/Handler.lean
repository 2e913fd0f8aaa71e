import DrawingPlan.Drawing.Transaction
import DrawingPlan.Json.Shown
import DrawingPlan.Plan.Action

set_option autoImplicit false

namespace DrawingPlan

-- The first action has the index zero.
inductive ExecutionError where
  | busy (cause : TransactionError)
  | unknownAction (index : Nat) (kind : ActionKind)
  | failed (index : Nat) (kind : ActionKind) (cause : Fault)
  -- The answer does not say that all is well; it is kept as it was shown.
  | rejected (index : Nat) (kind : ActionKind) (answer : Text)
  -- A handler gives up the plan in its own words, and names an action or none.
  | declared (text : Text) (index : Option Int := none) (action : Option Text := none)

namespace ExecutionError

def numbered (index : Nat) (kind : ActionKind) : String :=
  "action " ++ toString (index + 1) ++ " (" ++ kind.name ++ ")"

def message : ExecutionError → Text
  | .busy cause => "Cannot start transaction: " ++ cause.message
  | .unknownAction _ kind => "unknown action " ++ kind.name
  | .failed index kind cause => numbered index kind ++ " failed: " ++ cause.message
  | .rejected index kind answer => numbered index kind ++ " returned " ++ answer
  | .declared text .. => text

def place? : ExecutionError → Option (Nat × ActionKind)
  | .busy _ | .declared .. => none
  | .unknownAction index kind | .failed index kind _ | .rejected index kind _ => some (index, kind)

def index? : ExecutionError → Option Int
  | .declared _ index _ => index
  | error => error.place?.map fun place => (place.1 : Int)

def action? : ExecutionError → Option Text
  | .declared _ _ action => action
  | error => error.place?.map fun place => (place.2.name : Text)

end ExecutionError

inductive Raised where
  | fault (fault : Fault)
  | execution (error : ExecutionError)
  | transaction (error : TransactionError)
  -- A stop from outside, which is no failure of an action.
  | interrupt (kind : String) (text : Text)

def Raised.blamed? : Raised → Option Fault
  | .fault cause => some cause
  | .transaction error => some (.host "TransactionError" error.message)
  | .execution _ | .interrupt .. => none

-- A handler changes the drawing also when it does not come to an end.
structure Reply (α : Type) where
  drawing : Drawing α
  notes : List Note := []
  answer : Except Raised Json

/-- Handlers may remember what they did, in a memory that they share. -/
abbrev Handler (α Memory : Type) := Action α → Memory → Drawing α → Memory × Reply α

structure Registry (α : Type) where
  {Memory : Type}
  memory : Memory
  handler? : ActionKind → Option (Handler α Memory)
  -- Answers that are nested deeper cannot be shown.
  depth : Nat := 990

namespace Registry

variable {α : Type}

def ofHandlers (handler? : ActionKind → Option (Action α → Drawing α → Reply α)) :
    Registry α where
  memory := ()
  handler? kind := (handler? kind).map fun handler action _ drawing => ((), handler action drawing)

def reply? (registry : Registry α) (action : Action α) (drawing : Drawing α) :
    Option (Registry α × Reply α) :=
  (registry.handler? action.kind).map fun handler =>
    let (memory, reply) := handler action registry.memory drawing
    ({ registry with memory }, reply)

end Registry

namespace Reply

variable {α : Type}

def created (drawing : Drawing α) (notes : List Note) (count : Nat)
    (details : List (Text × Json)) : Reply α where
  drawing := drawing
  notes := notes
  answer := .ok (.object (("ok", .bool true) :: ("created", .integer count) :: details))

def affected (drawing : Drawing α) (notes : List Note) (count : Nat)
    (details : List (Text × Json)) : Reply α where
  drawing := drawing
  notes := notes
  answer := .ok (.object (("ok", .bool true) :: ("affected", .integer count) :: details))

def fault (drawing : Drawing α) (notes : List Note) (fault : Fault) : Reply α where
  drawing := drawing
  notes := notes
  answer := .error (.fault fault)

end Reply

end DrawingPlan
