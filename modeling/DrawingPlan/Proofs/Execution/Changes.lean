import DrawingPlan.Execution.Run
import DrawingPlan.Proofs.Drawing.Rollback
import DrawingPlan.Proofs.Drawing.Selection

set_option autoImplicit false

namespace DrawingPlan

variable {α : Type}

structure Run.Passes (counted depth : Nat) (answer : Json) : Prop where
  accepted : Run.accepted answer = true
  shown : ∃ text, Run.wording counted depth answer = .ok text

theorem Json.render_count {counted count : Nat} (few : count ≤ counted) (depth : Nat) :
    (Json.integer count).render counted depth = .ok (Json.integer count).plain := by
  have short : ¬counted < ((count : Int)).natAbs := by simpa using few
  simp only [render, hindrance?, short, false_and, if_false]

section Passes

variable {counted count : Nat} {answer : Json}

theorem Run.passes_of_created (accepted : Run.accepted answer = true)
    (found : answer.field? "created" = some (.integer count)) (few : count ≤ counted)
    (depth : Nat) : Run.Passes counted depth answer where
  accepted := accepted
  shown := ⟨"(created " ++ (Json.integer count).plain ++ ")", by
    simp only [wording, accepted, if_true, summary, found, Json.render_count few]
    rfl⟩

theorem Run.passes_of_affected (accepted : Run.accepted answer = true)
    (missing : answer.field? "created" = none)
    (found : answer.field? "affected" = some (.integer count)) (few : count ≤ counted)
    (depth : Nat) : Run.Passes counted depth answer where
  accepted := accepted
  shown := ⟨"(affected " ++ (Json.integer count).plain ++ ")", by
    simp only [wording, accepted, if_true, summary, missing, found, Json.render_count few]
    rfl⟩

end Passes

structure Reply.Orderly (reply : Reply α) (drawing : Drawing α) : Prop where
  reaches : drawing.Reaches Change.Recoverable reply.drawing
  faults : ∀ raised, reply.answer = .error raised → ∃ fault, raised = .fault fault
  passes : ∀ answer, reply.answer = .ok answer →
    ∀ depth, Run.Passes reply.drawing.entities.length depth answer

namespace Reply

theorem orderly_created {drawing reached : Drawing α} (notes : List Note) {count : Nat}
    (details : List (Text × Json)) (reaches : drawing.Reaches Change.Recoverable reached)
    (few : count ≤ reached.entities.length) :
    (Reply.created reached notes count details).Orderly drawing where
  reaches := reaches
  faults _ failed := by cases failed
  passes _ ended depth := by
    cases ended
    exact Run.passes_of_created rfl rfl few depth

theorem orderly_affected {drawing reached : Drawing α} (notes : List Note) {count : Nat}
    {details : List (Text × Json)} (reaches : drawing.Reaches Change.Recoverable reached)
    (few : count ≤ drawing.entities.length)
    (uncreated : details.lookup ("created" : Text) = none) :
    (Reply.affected reached notes count details).Orderly drawing where
  reaches := reaches
  faults _ failed := by cases failed
  passes _ ended depth := by
    obtain ⟨changes, -, grown⟩ := reaches
    have still : count ≤ reached.entities.length :=
      Nat.le_trans few (grown ▸ (Drawing.grown_changed changes drawing).entities)
    have missing : (Json.object (("ok", .bool true) :: ("affected", .integer count) ::
        details)).field? "created" = none := uncreated
    cases ended
    exact Run.passes_of_affected rfl missing rfl still depth

theorem orderly_fault {drawing reached : Drawing α} (notes : List Note) (fault : Fault)
    (reaches : drawing.Reaches Change.Recoverable reached) :
    (Reply.fault reached notes fault).Orderly drawing where
  reaches := reaches
  faults _ failed := ⟨fault, (Except.error.inj failed).symm⟩
  passes _ ended := by cases ended

end Reply

theorem Drawing.reaches_place (drawing : Drawing α) (geometry : Geometry α) (layer : Text) :
    drawing.Reaches Change.Recoverable (drawing.place geometry layer) :=
  ⟨[.ensureLayer layer, .append { geometry := some geometry, layer }],
    by simp [Change.Recoverable], rfl⟩

theorem Drawing.one_le_length_place (drawing : Drawing α) (geometry : Geometry α) (layer : Text) :
    1 ≤ (drawing.place geometry layer).entities.length := by
  simp [place, append]

theorem Reply.orderly_shape (drawing : Drawing α) (geometry : Geometry α) (layer : Text) :
    (Reply.shape drawing geometry layer).Orderly drawing :=
  Reply.orderly_created _ _ (drawing.reaches_place geometry layer)
    (drawing.one_le_length_place geometry layer)

theorem Reply.orderly_outline (drawing : Drawing α) (vertices : Except Fault (List (Point α)))
    (layer : Text) : (Reply.outline drawing vertices layer).Orderly drawing := by
  cases vertices with
  | error fault => exact Reply.orderly_fault _ _ (Drawing.Reaches.refl drawing)
  | ok vertices => exact Reply.orderly_shape drawing _ layer

section Actions

variable [Scalar α]

theorem InsertBlock.orderly_perform (action : InsertBlock α) (drawing : Drawing α) :
    (action.perform drawing).Orderly drawing := by
  cases known : drawing.blocks.get? action.name with
  | none =>
    simp only [InsertBlock.perform, known]
    exact Reply.orderly_created _ _ (Drawing.Reaches.refl drawing) (Nat.zero_le _)
  | some definition =>
    simp only [InsertBlock.perform, known]
    split
    · exact Reply.orderly_fault _ _ (Drawing.Reaches.refl drawing)
    · exact Reply.orderly_created _ _ (drawing.reaches_place _ _)
        (drawing.one_le_length_place _ _)

omit [Scalar α] in
theorem Drawing.reaches_editEach (change : Entity α → Entity α) (places : List Nat)
    (drawing : Drawing α) :
    drawing.Reaches Change.Recoverable (drawing.editEach change places) := by
  apply Drawing.related_foldl Drawing.Reaches.refl Drawing.Reaches.trans
  intro drawing place
  exact ⟨[.edit place change], by simp [Change.Recoverable], rfl⟩

/-- Also when the transform stops at a fault, what it did so far is a run of edits. -/
theorem Drawing.reaches_transformEach (t : Transform α) (places : List Nat)
    (drawing : Drawing α) :
    drawing.Reaches Change.Recoverable (drawing.transformEach t places).1 := by
  induction places generalizing drawing with
  | nil => exact Drawing.Reaches.refl drawing
  | cons place rest ih =>
    rw [Drawing.transformEach]
    split
    · exact ih drawing
    · exact Drawing.Reaches.refl drawing
    · next moved _ =>
      have first : drawing.Reaches Change.Recoverable (drawing.editEntity place fun _ => moved) :=
        ⟨[.edit place fun _ => moved], by simp [Change.Recoverable], rfl⟩
      exact first.trans (ih _)

theorem Reply.orderly_selecting (drawing : Drawing α) (filter : Option (Filter α))
    (change : List Nat → Reply α)
    (orderly : ∀ places, places.length ≤ drawing.entities.length →
      (change places).Orderly drawing) :
    (Reply.selecting drawing filter change).Orderly drawing := by
  cases selected : drawing.select filter with
  | error fault =>
    simp only [Reply.selecting, selected]
    exact Reply.orderly_fault _ _ (Drawing.Reaches.refl drawing)
  | ok places =>
    have few : places.length ≤ drawing.entities.length :=
      Nat.le_trans (Drawing.length_of_select selected) (List.length_filter_le _ _)
    simp only [Reply.selecting, selected]
    exact orderly places few

theorem Reply.orderly_transforming (drawing : Drawing α) (filter : Option (Filter α))
    (t : Transform α) : (Reply.transforming drawing filter t).Orderly drawing := by
  apply Reply.orderly_selecting
  intro places few
  have reaches := Drawing.reaches_transformEach t places drawing
  split
  · next moved done =>
    rw [done] at reaches
    exact Reply.orderly_affected _ reaches few rfl
  · next moved fault done =>
    rw [done] at reaches
    exact Reply.orderly_fault _ _ reaches

theorem Erase.orderly_perform (action : Erase α) (drawing : Drawing α) :
    (action.perform drawing).Orderly drawing := by
  apply Reply.orderly_selecting
  intro places few
  refine Reply.orderly_affected _ ?_ few rfl
  apply Drawing.related_foldl Drawing.Reaches.refl Drawing.Reaches.trans
  intro drawing place
  exact ⟨[.erase place], by simp [Change.Recoverable], rfl⟩

theorem ChangeLayer.orderly_perform (action : ChangeLayer α) (drawing : Drawing α) :
    (action.perform drawing).Orderly drawing := by
  rw [ChangeLayer.perform]
  split
  · exact Reply.orderly_affected _ (Drawing.Reaches.refl drawing) (Nat.zero_le _) rfl
  · next layer _ =>
    apply Reply.orderly_selecting
    intro places few
    split
    · exact Reply.orderly_affected _ (Drawing.Reaches.refl drawing) (Nat.zero_le _) rfl
    · have ensured : drawing.Reaches Change.Recoverable (drawing.ensureLayer layer) :=
        ⟨[.ensureLayer layer], by simp [Change.Recoverable], rfl⟩
      exact Reply.orderly_affected _ (ensured.trans (Drawing.reaches_editEach _ places _)) few rfl

theorem ChangeProperties.orderly_perform (action : ChangeProperties α) (drawing : Drawing α) :
    (action.perform drawing).Orderly drawing := by
  rw [ChangeProperties.perform]
  split
  · exact Reply.orderly_affected _ (Drawing.Reaches.refl drawing) (Nat.zero_le _) rfl
  · apply Reply.orderly_selecting
    intro places few
    exact Reply.orderly_affected _ (Drawing.reaches_editEach _ places drawing) few rfl

theorem Action.orderly_perform (action : Action α) (drawing : Drawing α) :
    (action.perform drawing).Orderly drawing := by
  cases action with
  | line action => exact Reply.orderly_shape drawing _ _
  | polyline action => exact Reply.orderly_shape drawing _ _
  | rectangle action => exact Reply.orderly_outline drawing _ _
  | circle action => exact Reply.orderly_shape drawing _ _
  | polygon action => exact Reply.orderly_outline drawing _ _
  | insertBlock action => exact action.orderly_perform drawing
  | move action => exact Reply.orderly_transforming drawing _ _
  | rotate action => exact Reply.orderly_transforming drawing _ _
  | scale action => exact Reply.orderly_transforming drawing _ _
  | erase action => exact action.orderly_perform drawing
  | changeLayer action => exact action.orderly_perform drawing
  | changeProperties action => exact action.orderly_perform drawing

end Actions

end DrawingPlan
