import DrawingPlan.Drawing.Filter
import DrawingPlan.Proofs.Except

set_option autoImplicit false

namespace DrawingPlan

variable {α : Type} {drawing : Drawing α}

namespace Drawing

theorem mem_liveIndexes {place : Nat} :
    place ∈ drawing.liveIndexes ↔
      ∃ entity, drawing.entities[place]? = some entity ∧ entity.deleted = false := by
  simp [liveIndexes, List.mem_zipIdx_iff_getElem?]

theorem pairwise_liveIndexes (drawing : Drawing α) : drawing.liveIndexes.Pairwise (· < ·) := by
  have places : (drawing.entities.zipIdx.map (·.2)).Pairwise (· < ·) := by
    rw [List.zipIdx_map_snd]
    exact List.pairwise_lt_range' 1
  exact places.sublist (List.filter_sublist.map _)

theorem nodup_liveIndexes (drawing : Drawing α) : drawing.liveIndexes.Nodup :=
  drawing.pairwise_liveIndexes.imp Nat.ne_of_lt

theorem length_liveIndexes (drawing : Drawing α) :
    drawing.liveIndexes.length = drawing.liveEntities.length := by
  have entities : drawing.liveEntities =
      (drawing.entities.zipIdx.filter fun entry => !entry.1.deleted).map (·.1) := by
    rw [liveEntities, ← List.zipIdx_map_fst 0 drawing.entities, List.filter_map,
      List.zipIdx_map_fst]
    rfl
  rw [liveIndexes, entities, List.length_map, List.length_map]

end Drawing

variable [Scalar α] {filter : Option (Filter α)} {places : List Nat}

theorem Filter.among_sublist {entries : List (Entity α × Nat)}
    (chosen : among filter entries = .ok places) :
    places.Sublist ((entries.filter fun entry => !entry.1.deleted).map (·.2)) := by
  induction entries generalizing places with
  | nil =>
    cases chosen
    exact .slnil
  | cons entry rest ih =>
    obtain ⟨entity, index⟩ := entry
    cases erased : entity.deleted with
    | true =>
      simp only [among, erased, if_true] at chosen
      simpa [erased] using ih chosen
    | false =>
      simp only [among, erased, Bool.false_eq_true, if_false] at chosen
      obtain ⟨accepted, -, later⟩ := bind_ok chosen
      obtain ⟨others, selected, ended⟩ := bind_ok later
      cases ended
      cases accepted
      · simpa [erased] using (ih selected).cons index
      · simpa [erased] using ih selected

namespace Drawing

theorem select_sublist (selected : drawing.select filter = .ok places) :
    places.Sublist drawing.liveIndexes :=
  Filter.among_sublist selected

theorem nodup_of_select (selected : drawing.select filter = .ok places) : places.Nodup :=
  (select_sublist selected).nodup drawing.nodup_liveIndexes

theorem live_of_select (selected : drawing.select filter = .ok places) {place : Nat}
    (member : place ∈ places) :
    ∃ entity, drawing.entities[place]? = some entity ∧ entity.deleted = false :=
  mem_liveIndexes.mp ((select_sublist selected).subset member)

theorem length_of_select (selected : drawing.select filter = .ok places) :
    places.length ≤ drawing.liveEntities.length :=
  drawing.length_liveIndexes ▸ (select_sublist selected).length_le

end Drawing

def Filter.Picks (filter : Option (Filter α)) (entity : Entity α) : Prop :=
  entity.deleted = false ∧ acceptsAny filter entity = .ok true

instance (filter : Option (Filter α)) : DecidablePred (Filter.Picks filter) := fun entity =>
  decidable_of_iff
    (entity.deleted = false ∧ (Filter.acceptsAny filter entity matches .ok true) = true) <| by
      rcases verdict : Filter.acceptsAny filter entity with fault | _ | _ <;>
        simp [Filter.Picks, verdict]

theorem Filter.judged_of_among {entries : List (Entity α × Nat)}
    (chosen : among filter entries = .ok places) :
    ∀ entry ∈ entries, entry.1.deleted = false →
      ∃ verdict, acceptsAny filter entry.1 = .ok verdict := by
  induction entries generalizing places with
  | nil => nofun
  | cons entry rest ih =>
    obtain ⟨entity, index⟩ := entry
    rw [List.forall_mem_cons]
    cases erased : entity.deleted with
    | true =>
      simp only [among, erased, if_true] at chosen
      exact ⟨nofun, ih chosen⟩
    | false =>
      simp only [among, erased, Bool.false_eq_true, if_false] at chosen
      obtain ⟨verdict, judgement, later⟩ := bind_ok chosen
      obtain ⟨others, selected, -⟩ := bind_ok later
      exact ⟨fun _ => ⟨verdict, judgement⟩, ih selected⟩

theorem Filter.among_ok {entries : List (Entity α × Nat)}
    (judged : ∀ entry ∈ entries, entry.1.deleted = false →
      ∃ verdict, acceptsAny filter entry.1 = .ok verdict) :
    among filter entries = .ok ((entries.filter fun entry => Picks filter entry.1).map (·.2)) := by
  induction entries with
  | nil => rfl
  | cons entry rest ih =>
    obtain ⟨entity, index⟩ := entry
    obtain ⟨first, later⟩ := List.forall_mem_cons.mp judged
    cases erased : entity.deleted with
    | true => simp [among, erased, Picks, ih later]
    | false =>
      obtain ⟨verdict, judgement⟩ := first erased
      cases verdict <;>
        simp [among, erased, Picks, judgement, ih later, Bind.bind, Except.bind, pure, Except.pure]

namespace Drawing

def targets (drawing : Drawing α) (filter : Option (Filter α)) : List (Entity α) :=
  drawing.entities.filter fun entity => Filter.Picks filter entity

structure Selected (drawing : Drawing α) (filter : Option (Filter α)) (places : List Nat) :
    Prop where
  select : drawing.select filter = .ok places
  count : places.length = (drawing.targets filter).length
  mem_iff : ∀ place, place ∈ places ↔
    ∃ entity, drawing.entities[place]? = some entity ∧ Filter.Picks filter entity

theorem select_of_judged (judged : ∀ entity ∈ drawing.liveEntities,
    ∃ verdict, Filter.acceptsAny filter entity = .ok verdict) :
    drawing.select filter = .ok
      ((drawing.entities.zipIdx.filter fun entry => Filter.Picks filter entry.1).map (·.2)) := by
  refine Filter.among_ok fun entry member live => judged entry.1 ?_
  exact List.mem_filter.mpr ⟨List.fst_mem_of_mem_zipIdx member, by simp [live]⟩

theorem select_ok_iff :
    (∃ places, drawing.select filter = .ok places) ↔ ∀ entity ∈ drawing.liveEntities,
      ∃ verdict, Filter.acceptsAny filter entity = .ok verdict := by
  refine ⟨fun ⟨places, selected⟩ entity listed => ?_, fun judged => ⟨_, select_of_judged judged⟩⟩
  obtain ⟨member, live⟩ := List.mem_filter.mp listed
  obtain ⟨place, there⟩ := List.mem_iff_getElem?.mp member
  exact Filter.judged_of_among selected (entity, place)
    (List.mk_mem_zipIdx_iff_getElem?.mpr there) (by simpa using live)

theorem selected_of_judged (judged : ∀ entity ∈ drawing.liveEntities,
    ∃ verdict, Filter.acceptsAny filter entity = .ok verdict) :
    ∃ places, drawing.Selected filter places := by
  refine ⟨_, select_of_judged judged, ?_, fun place => ?_⟩
  · have counted : drawing.targets filter =
        (drawing.entities.zipIdx.filter fun entry => Filter.Picks filter entry.1).map (·.1) := by
      rw [targets, ← List.zipIdx_map_fst 0 drawing.entities, List.filter_map,
        List.zipIdx_map_fst]
      rfl
    rw [counted, List.length_map, List.length_map]
  · simp [List.mem_zipIdx_iff_getElem?]

end Drawing

end DrawingPlan
