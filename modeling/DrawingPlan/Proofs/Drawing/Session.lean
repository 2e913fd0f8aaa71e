import DrawingPlan.Proofs.Drawing.Change

set_option autoImplicit false

namespace DrawingPlan

variable {α : Type}

inductive Operation (α : Type) where
  | change (made : Change α)
  | begin
  | commit
  | rollback

def Operation.perform : Operation α → Drawing α → Except TransactionError (Drawing α)
  | .change made, drawing => .ok (made.apply drawing)
  | .begin, drawing => drawing.begin?
  | .commit, drawing => drawing.commit?
  | .rollback, drawing => drawing.rollback?

/-- `active` and `begun` are what the calls so far tell, whatever the drawing has stored. -/
structure Session (α : Type) where
  drawing : Drawing α
  active : Bool := false
  begun : Option (Drawing α) := none

namespace Session

def fresh (name : String) (units : Int) (scale : α) (color : Int) : Session α where
  drawing := { name, insertionUnits := units, linetypeScale := scale, currentColor := color }

def after (session : Session α) (operation : Operation α) : Session α :=
  match operation.perform session.drawing with
  | .error _ => session
  | .ok reached =>
    match operation with
    | .change _ => { session with drawing := reached }
    | .begin => { drawing := reached, active := true, begun := some session.drawing }
    | .commit | .rollback => { session with drawing := reached, active := false }

def run (session : Session α) (operations : List (Operation α)) : Session α :=
  operations.foldl after session

structure Sound (session : Session α) : Prop where
  flag : session.drawing.inTransaction = session.active
  listed : session.drawing.layers.Listed
  distinct : session.drawing.blocks.Distinct
  held : session.active = true → ∃ begun, session.begun = some begun ∧ begun.layers.Listed ∧
    begun.opened.Grown session.drawing

theorem sound_fresh (name : String) (units : Int) (scale : α) (color : Int) :
    (fresh name units scale color).Sound where
  flag := rfl
  listed := Layers.initial_listed
  distinct := List.nodup_nil
  held active := by cases active

theorem Sound.begin? {session : Session α} (sound : session.Sound) :
    session.drawing.begin? =
      if session.active then .error .alreadyActive else .ok session.drawing.opened := by
  have flag := sound.flag
  cases stored : session.drawing.checkpoint <;>
    simp_all [Drawing.begin?, Drawing.inTransaction, Drawing.opened]

theorem Sound.commit? {session : Session α} (sound : session.Sound) :
    session.drawing.commit? =
      if session.active then .ok { session.drawing with checkpoint := none }
      else .error .nothingToCommit := by
  have flag := sound.flag
  cases stored : session.drawing.checkpoint <;>
    simp_all [Drawing.commit?, Drawing.inTransaction]

theorem Sound.rollback?_idle {session : Session α} (sound : session.Sound)
    (idle : session.active = false) : session.drawing.rollback? = .error .nothingToRollBack := by
  have flag := sound.flag
  cases stored : session.drawing.checkpoint <;>
    simp_all [Drawing.rollback?, Drawing.inTransaction]

theorem sound_after {session : Session α} (sound : session.Sound) (operation : Operation α) :
    (session.after operation).Sound := by
  cases operation with
  | change made =>
    have grown := Drawing.grown_apply made session.drawing
    refine ⟨?_, Drawing.listed_apply sound.listed made,
      Drawing.distinct_apply sound.distinct made, ?_⟩
    · simpa [after, Operation.perform, Drawing.inTransaction, grown.checkpoint] using sound.flag
    -- The checkpoint stays good: what it counts can only have become more.
    · intro active
      obtain ⟨begun, known, listed, since⟩ := sound.held active
      exact ⟨begun, known, listed, since.trans grown⟩
  | begin =>
    by_cases active : session.active = true
    · simpa [after, Operation.perform, sound.begin?, active] using sound
    · have started : session.after .begin =
          { drawing := session.drawing.opened, active := true, begun := some session.drawing } := by
        simp [after, Operation.perform, sound.begin?, active]
      rw [started]
      exact ⟨rfl, sound.listed, sound.distinct,
        fun _ => ⟨_, rfl, sound.listed, Drawing.Grown.refl _⟩⟩
  | commit =>
    by_cases active : session.active = true
    · simp only [after, Operation.perform, sound.commit?, active, if_true]
      exact ⟨rfl, sound.listed, sound.distinct, fun impossible => by cases impossible⟩
    · simpa [after, Operation.perform, sound.commit?, active] using sound
  | rollback =>
    by_cases active : session.active = true
    -- The table of before leads to records of before, and those are still there.
    · obtain ⟨begun, _, listed, since⟩ := sound.held active
      simp only [after, Operation.perform, Drawing.rollback?_of_grown since]
      exact ⟨rfl, listed.restore since.records, sound.distinct,
        fun impossible => by cases impossible⟩
    · have idle : session.active = false := by simpa using active
      simpa [after, Operation.perform, sound.rollback?_idle idle] using sound

theorem sound_run {session : Session α} (sound : session.Sound) (operations : List (Operation α)) :
    (session.run operations).Sound := by
  induction operations generalizing session with
  | nil => exact sound
  | cons operation rest ih => exact ih (sound_after sound operation)

end Session

namespace Session

end Session

end DrawingPlan
