import DrawingPlan.Drawing.Copy

set_option autoImplicit false

namespace DrawingPlan

inductive TransactionError where
  | alreadyActive
  | nothingToCommit
  | nothingToRollBack
deriving DecidableEq, Repr

def TransactionError.message : TransactionError → String
  | .alreadyActive => "a transaction is already active on this space"
  | .nothingToCommit => "no active transaction to commit"
  | .nothingToRollBack => "no active transaction to roll back"

namespace Drawing

variable {α : Type}

def inTransaction (drawing : Drawing α) : Bool :=
  drawing.checkpoint.isSome

def currentCheckpoint (drawing : Drawing α) : Checkpoint α where
  entities := drawing.copies
  layerTable := drawing.layers.table
  layerRecords := drawing.layers.records.length

def begin? (drawing : Drawing α) : Except TransactionError (Drawing α) :=
  match drawing.checkpoint with
  | some _ => .error .alreadyActive
  | none => .ok { drawing with checkpoint := some drawing.currentCheckpoint }

def commit? (drawing : Drawing α) : Except TransactionError (Drawing α) :=
  match drawing.checkpoint with
  | none => .error .nothingToCommit
  | some _ => .ok { drawing with checkpoint := none }

def restoreEntities (saved entities : List (Entity α)) : List (Entity α) :=
  (entities.take saved.length).zipWith (fun _ before => before) saved

def restore (drawing : Drawing α) (checkpoint : Checkpoint α) : Drawing α :=
  { drawing with
    entities := restoreEntities checkpoint.entities drawing.entities
    layers := drawing.layers.restore checkpoint.layerTable checkpoint.layerRecords
    checkpoint := none }

def rollback? (drawing : Drawing α) : Except TransactionError (Drawing α) :=
  match drawing.checkpoint with
  | none => .error .nothingToRollBack
  | some checkpoint => .ok (drawing.restore checkpoint)

def conclude? (failed : Bool) (drawing : Drawing α) : Except TransactionError (Drawing α) :=
  if failed then drawing.rollback? else drawing.commit?

inductive Aborted (ε : Type) where
  | transaction (error : TransactionError)
  | body (error : ε)

def transact {ε β : Type} (body : Drawing α → Drawing α × Except ε β) (drawing : Drawing α) :
    Drawing α × Except (Aborted ε) β :=
  match drawing.begin? with
  | .error error => (drawing, .error (.transaction error))
  | .ok begun =>
    let (reached, result) := body begun
    -- A body that ended the transaction itself leaves none to conclude.
    match reached.conclude? (!result.isOk) with
    | .error error => (reached, .error (.transaction error))
    | .ok ended => (ended, result.mapError .body)

def rollbackNotes (drawing : Drawing α) : List Note :=
  match drawing.checkpoint with
  | none => []
  | some checkpoint =>
    [⟨.drawing, .debug,
      "transaction rolled back, " ++ toString checkpoint.entities.length ++ " entities restored"⟩]

end Drawing

end DrawingPlan
