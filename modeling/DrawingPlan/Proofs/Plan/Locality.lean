import DrawingPlan.Proofs.Plan.Slots

set_option autoImplicit false

namespace DrawingPlan

def Json.AgreeBut (key : Text) (first second : Json) : Prop :=
  ∀ other, other ≠ key → first.field other = second.field other

def Json.MalformedFilter (obj : Json) : Prop :=
  ¬(obj.field "filter" = .null ∨ ∃ fields, obj.field "filter" = .object fields)

theorem Field.filter_error_iff {obj : Json} :
    (∃ typeName, filter obj = .error typeName) ↔ obj.MalformedFilter := by
  rw [Json.MalformedFilter, ← filter_ok_iff]
  cases filter obj <;> simp

theorem Field.filter_congr {first second : Json}
    (same : first.field "filter" = second.field "filter") : filter first = filter second := by
  simp only [filter, same]

namespace Action

variable {first second : Json} {written : Text} {kind : ActionKind} {changed : List Slot}
  {one two : Except Skip (Action Float)}

def Skipped (result : Except Skip (Action Float)) : Prop :=
  ∃ skip, result = .error skip

inductive DifferWithin (changed : List Slot) :
    Except Skip (Action Float) → Except Skip (Action Float) → Prop
  | skipped (skip : Skip) : DifferWithin changed (.error skip) (.error skip)
  | actions {a b : Action Float} (kinds : a.kind = b.kind)
      (others : ∀ slot, slot ∉ changed → a.value? slot = b.value? slot) :
      DifferWithin changed (.ok a) (.ok b)

theorem DifferWithin.eq (same : DifferWithin [] one two) : one = two := by
  cases same with
  | skipped skip => rfl
  | actions kinds others =>
    exact congrArg Except.ok (eq_of_values kinds fun slot _ => others slot List.not_mem_nil)

theorem skipped_iff (reading : readAs written first kind = .ok one) :
    Skipped one ↔ kind ∈ ActionKind.editing ∧ first.MalformedFilter := by
  constructor
  · rintro ⟨skip, rfl⟩
    obtain ⟨edits, typeName, found, -⟩ := readAs_skip_iff.mp reading
    exact ⟨edits, Field.filter_error_iff.mp ⟨typeName, found⟩⟩
  · rintro ⟨edits, malformed⟩
    obtain ⟨typeName, found⟩ := Field.filter_error_iff.mpr malformed
    have skips : readAs written first kind = .ok (.error (.malformedFilter written typeName)) :=
      readAs_skip_iff.mpr ⟨edits, typeName, found, rfl⟩
    exact ⟨_, Except.ok.inj (reading.symm.trans skips)⟩

theorem skip_congr {skip : Skip}
    (filters : kind ∈ ActionKind.editing → first.field "filter" = second.field "filter")
    (skips : readAs written first kind = .ok (.error skip)) :
    readAs written second kind = .ok (.error skip) := by
  obtain ⟨edits, typeName, found, rfl⟩ := readAs_skip_iff.mp skips
  rw [Field.filter_congr (filters edits)] at found
  exact readAs_skip_iff.mpr ⟨edits, typeName, found, rfl⟩

theorem differWithin_of_actions {a b : Action Float}
    (agree : ∀ slot ∈ kind.slots, slot ∉ changed → first.field slot.key = second.field slot.key)
    (reading : readAs written first kind = .ok (.ok a))
    (again : readAs written second kind = .ok (.ok b)) :
    DifferWithin changed (.ok a) (.ok b) := by
  have firstKind := kind_of_readAs reading
  have secondKind := kind_of_readAs again
  refine .actions (firstKind.trans secondKind.symm) fun slot kept => ?_
  by_cases owned : slot ∈ kind.slots
  · rw [values_of_readAs reading slot owned, values_of_readAs again slot owned]
    exact Slot.read?_congr (agree slot owned kept)
  · rw [value?_eq_none (firstKind ▸ owned), value?_eq_none (secondKind ▸ owned)]

theorem differWithin_of_readAs
    (agree : ∀ slot ∈ kind.slots, slot ∉ changed → first.field slot.key = second.field slot.key)
    (reading : readAs written first kind = .ok one)
    (again : readAs written second kind = .ok two) :
    DifferWithin changed one two ∨ Slot.filter ∈ changed ∧ (Skipped one ∨ Skipped two) := by
  by_cases spoiled : Slot.filter ∈ changed ∧ (Skipped one ∨ Skipped two)
  · exact .inr spoiled
  · left
    -- A skip comes from the filter alone, so that one object is skipped where the other is.
    have filters (skips : Skipped one ∨ Skipped two) (edits : kind ∈ ActionKind.editing) :
        first.field "filter" = second.field "filter" :=
      agree .filter (ActionKind.filter_mem_slots.mpr edits) fun member => spoiled ⟨member, skips⟩
    match one, two with
    | .ok a, .ok b => exact differWithin_of_actions agree reading again
    | .error skip, _ =>
      have both := skip_congr (filters (.inl ⟨skip, rfl⟩)) reading
      obtain rfl := Except.ok.inj (again.symm.trans both)
      exact .skipped skip
    | _, .error skip =>
      have both := skip_congr (fun edits => (filters (.inr ⟨skip, rfl⟩) edits).symm) again
      obtain rfl := Except.ok.inj (reading.symm.trans both)
      exact .skipped skip

/--
Decoding goes field by field. Let two objects of a kind agree under all keys but one, which is not
that of the kind. If the kind has no slot under this key, both give the same result. If it has one,
the results differ in that slot at most, unless it is the filter and an object is skipped. Only
objects of the editing kinds are skipped, and these exactly for a filter that is neither null nor an
object.
-/
theorem decode_fieldwise {key : Text} (named : first.field "action" = .text written)
    (known : kindOf? written = some kind) (spared : key ≠ "action")
    (agree : first.AgreeBut key second) (reading : decode first = .ok one)
    (again : decode second = .ok two) :
    ((∀ slot ∈ kind.slots, (slot.key : Text) ≠ key) → one = two) ∧
      (∀ slot ∈ kind.slots, (slot.key : Text) = key → DifferWithin [slot] one two ∨
        slot = .filter ∧ kind ∈ ActionKind.editing ∧ (Skipped one ∨ Skipped two)) ∧
      (Skipped one ↔ kind ∈ ActionKind.editing ∧ first.MalformedFilter) := by
  have renamed : second.field "action" = .text written := (agree _ spared.symm).symm.trans named
  rw [decode_eq_readAs named known] at reading
  rw [decode_eq_readAs renamed known] at again
  refine ⟨fun unread => ?_, fun slot owned fed => ?_, skipped_iff reading⟩
  · have kept : ∀ slot ∈ kind.slots, slot ∉ [] → first.field slot.key = second.field slot.key :=
      fun slot owned _ => agree _ (unread slot owned)
    exact ((differWithin_of_readAs kept reading again).resolve_right (by simp)).eq
  · have kept : ∀ other ∈ kind.slots, other ∉ [slot] →
        first.field other.key = second.field other.key := by
      intro other owns different
      refine agree _ fun same => different (List.mem_singleton.mpr ?_)
      exact List.inj_on_of_nodup_map kind.nodup_keys owns owned
        (Text.ofString_inj.mp (same.trans fed.symm))
    refine (differWithin_of_readAs kept reading again).imp_right fun ⟨member, skips⟩ => ?_
    obtain rfl := List.mem_singleton.mp member
    exact ⟨rfl, ActionKind.filter_mem_slots.mp owned, skips⟩

theorem decode_fieldwise_of_moves :
    let filter : Text × Json := ("filter", .object [("layer", .text "WIRE")])
    let first : Json := .object [("action", .text " Move "), filter,
      ("offset", .list [.integer 1, .integer 2])]
    let second : Json := .object [("action", .text " Move "), filter, ("offset", .text "right")]
    ∃ one two, decode first = .ok one ∧ decode second = .ok two ∧
      DifferWithin [.offset] one two ∧ ¬Skipped one := by
  intro filter first second
  have agree : first.AgreeBut "offset" second := by
    intro other different
    have missed : (other == ("offset" : Text)) = false := beq_false_of_ne different
    simp only [first, second, filter, Json.field, Json.field?, List.lookup_cons, missed]
  have known : kindOf? " Move " = some .move := by decide +kernel
  have sound : ¬first.MalformedFilter := fun malformed => malformed (.inr ⟨_, rfl⟩)
  obtain ⟨-, fed, skipped⟩ := decode_fieldwise (rfl : first.field "action" = .text " Move ") known
    (by decide) agree rfl rfl
  refine ⟨_, _, rfl, rfl, ?_, fun skips => sound (skipped.mp skips).2⟩
  exact (fed .offset (by decide) rfl).resolve_right (by simp)

end Action

end DrawingPlan
