import DrawingPlan.Proofs.Plan.Locality
import Mathlib.Data.List.Forall2

set_option autoImplicit false

namespace DrawingPlan

inductive Json.SkippedFor : Json → Skip → Prop
  | notObject {item : Json} (other : ∀ fields, item ≠ .object fields) :
    SkippedFor item (.notObject item)
  | noKind {fields : List (Text × Json)}
    (unnamed : ∀ written, (Json.object fields).field "action" ≠ .text written) :
    SkippedFor (.object fields) .noKind
  | unknownKind {fields : List (Text × Json)} {written : Text}
    (named : (Json.object fields).field "action" = .text written)
    (unknown : Action.kindOf? written = none) :
    SkippedFor (.object fields) (.unknownKind written)
  | malformedFilter {fields : List (Text × Json)} {written : Text} {kind : ActionKind}
    {typeName : String} (named : (Json.object fields).field "action" = .text written)
    (known : Action.kindOf? written = some kind) (edits : kind ∈ ActionKind.editing)
    (malformed : Field.filter (.object fields) = .error typeName) :
    SkippedFor (.object fields) (.malformedFilter written typeName)

theorem Action.decode_skip_iff {item : Json} {skip : Skip} :
    decode item = .ok (.error skip) ↔ item.SkippedFor skip := by
  constructor
  · intro skipped
    unfold decode at skipped
    split at skipped
    next fields =>
      split at skipped
      next written named =>
        split at skipped
        next kind known =>
          obtain ⟨edits, typeName, malformed, rfl⟩ := readAs_skip_iff.mp skipped
          exact .malformedFilter named known edits malformed
        next unknown =>
          cases skipped
          exact .unknownKind named unknown
      next unnamed =>
        cases skipped
        exact .noKind unnamed
    next other =>
      cases skipped
      exact .notObject other
  · intro skipped
    cases skipped with
    | notObject other =>
      cases item with
      | object fields => exact absurd rfl (other fields)
      | _ => rfl
    | noKind unnamed =>
      unfold decode
      dsimp only
      split
      next written named => exact absurd named (unnamed written)
      next => rfl
    | unknownKind named unknown => simp only [decode, named, unknown]
    | malformedFilter named known edits malformed =>
      rw [decode_eq_readAs named known]
      exact readAs_skip_iff.mpr ⟨edits, _, malformed, rfl⟩

namespace Decoded

variable {items : List Json} {actions : List (Action Float)} {skips : List Skip}

inductive Parted : List Json → List (Action Float) → List Skip → Prop
  | nil : Parted [] [] []
  | action {item : Json} {action : Action Float} {items : List Json}
    {actions : List (Action Float)} {skips : List Skip}
    (read : Action.decode item = .ok (.ok action)) (rest : Parted items actions skips) :
    Parted (item :: items) (action :: actions) skips
  | skip {item : Json} {skip : Skip} {items : List Json} {actions : List (Action Float)}
    {skips : List Skip} (reason : item.SkippedFor skip) (rest : Parted items actions skips) :
    Parted (item :: items) actions (skip :: skips)

theorem parted_of_ok (ended : (ofItems items).actions = .ok actions) :
    Parted items actions (ofItems items).skipped := by
  induction items generalizing actions with
  | nil =>
    cases ended
    exact .nil
  | cons item rest ih =>
    match read : Action.decode item with
    | .error fault => simp [ofItems, read] at ended
    | .ok (.error skip) =>
      simp only [ofItems, read] at ended ⊢
      exact .skip (Action.decode_skip_iff.mp read) (ih ended)
    | .ok (.ok action) =>
      simp only [ofItems, read] at ended ⊢
      cases later : (ofItems rest).actions with
      | error fault => simp [later, Except.map] at ended
      | ok others =>
        rw [later] at ended
        cases ended
        exact .action read (ih later)

namespace Parted

theorem ofItems_eq (parted : Parted items actions skips) :
    ofItems items = ⟨skips, .ok actions⟩ := by
  induction parted with
  | nil => rfl
  | action read rest ih =>
    simp only [ofItems, read, ih]
    rfl
  | skip reason rest ih => simp only [ofItems, Action.decode_skip_iff.mpr reason, ih]

theorem length_eq (parted : Parted items actions skips) :
    items.length = actions.length + skips.length := by
  induction parted with
  | nil => rfl
  | action read rest ih | skip reason rest ih =>
    simp only [List.length_cons, ih]
    omega

theorem actions_in_turn (parted : Parted items actions skips) :
    List.SublistForall₂ (fun action item => Action.decode item = .ok (.ok action))
      actions items := by
  induction parted with
  | nil => exact .nil
  | action read rest ih => exact .cons read ih
  | skip reason rest ih => exact .cons_right ih

theorem notes_in_turn (parted : Parted items actions skips) :
    List.SublistForall₂ (fun note item => ∃ skip, Json.SkippedFor item skip ∧ note = skip.note)
      (skips.map Skip.note) items := by
  induction parted with
  | nil => exact .nil
  | action read rest ih => exact .cons_right ih
  | skip reason rest ih => exact .cons ⟨_, reason, rfl⟩ ih

theorem without {before after : List Json} {item : Json} {skip : Skip}
    (reason : item.SkippedFor skip) (parted : Parted (before ++ item :: after) actions skips) :
    ∃ front back, skips = front ++ skip :: back ∧
      Parted (before ++ after) actions (front ++ back) := by
  have skipped := Action.decode_skip_iff.mpr reason
  induction before generalizing actions skips with
  | nil =>
    cases parted with
    | action read rest =>
      rw [skipped] at read
      cases read
    | skip again rest =>
      have same := Action.decode_skip_iff.mpr again
      rw [skipped] at same
      cases same
      exact ⟨[], _, rfl, rest⟩
  | cons first others ih =>
    cases parted with
    | action read rest =>
      obtain ⟨front, back, rfl, fewer⟩ := ih rest
      exact ⟨front, back, rfl, .action read fewer⟩
    | skip other rest =>
      obtain ⟨front, back, rfl, fewer⟩ := ih rest
      exact ⟨_ :: front, back, rfl, .skip other fewer⟩

end Parted

end Decoded

namespace Plan

variable {text : Option Text} {plan : Plan Float}

theorem decode_of_parted [Json.Nesting] {items : List Json} {skips : List Skip}
    (document : documentOf (Fence.strip (text.getD "")) = .ok items)
    (parted : Decoded.Parted items plan.actions skips) :
    decode text = ⟨skips.map Skip.note, .ok plan⟩ := by
  simp only [decode, document, parted.ofItems_eq, Decoded.notes]

theorem parted_of_decode [Json.Nesting] (accepted : (decode text).plan = .ok plan) :
    ∃ items skips, documentOf (Fence.strip (text.getD "")) = .ok items ∧
      Decoded.Parted items plan.actions skips ∧ (decode text).notes = skips.map Skip.note := by
  cases document : documentOf (Fence.strip (text.getD "")) with
  | error refused => simp [decode, document] at accepted
  | ok items =>
    cases ended : (Decoded.ofItems items).actions with
    | error fault => simp [decode, document, ended] at accepted
    | ok actions =>
      obtain rfl : ⟨actions⟩ = plan := by simpa [decode, document, ended] using accepted
      have parted := Decoded.parted_of_ok ended
      exact ⟨items, _, rfl, parted, by rw [decode_of_parted document parted]⟩

/--
There are as many items as actions and notes, the actions and the notes are those of their items in
turn, and without an item that was skipped the plan is the same and one note is gone.
-/
theorem items_accounted_for [Json.Nesting] (accepted : (decode text).plan = .ok plan) :
    ∃ items, documentOf (Fence.strip (text.getD "")) = .ok items ∧
      items.length = plan.actions.length + (decode text).notes.length ∧
      (∀ note ∈ (decode text).notes, note.channel = .decoding ∧ note.level = .debug) ∧
      List.SublistForall₂ (fun action item => Action.decode item = .ok (.ok action))
        plan.actions items ∧
      List.SublistForall₂ (fun note item => ∃ skip, Json.SkippedFor item skip ∧ note = skip.note)
        (decode text).notes items ∧
      ∀ before item after skip, items = before ++ item :: after → item.SkippedFor skip →
        ∃ front back, (decode text).notes = front ++ skip.note :: back ∧
          (Decoded.ofItems (before ++ after)).actions = .ok plan.actions ∧
          ∀ other : Option Text, documentOf (Fence.strip (other.getD "")) = .ok (before ++ after) →
            decode other = ⟨front ++ back, .ok plan⟩ := by
  obtain ⟨items, skips, document, parted, noted⟩ := parted_of_decode accepted
  rw [noted]
  refine ⟨items, document, ?_, ?_, parted.actions_in_turn, parted.notes_in_turn, ?_⟩
  · rw [parted.length_eq, List.length_map]
  · exact List.forall_mem_map.mpr fun skip _ => ⟨rfl, rfl⟩
  · rintro before item after skip rfl reason
    obtain ⟨front, back, rfl, fewer⟩ := parted.without reason
    refine ⟨front.map Skip.note, back.map Skip.note, by simp, by rw [fewer.ofItems_eq], ?_⟩
    intro other shorter
    rw [decode_of_parted shorter fewer, List.map_append]

theorem items_accounted_for_of_four_skips :
    let text : Text := "[7,\x7b\x7d,\x7b\"action\":\"draw\"\x7d," ++
      "\x7b\"action\":\"erase\",\"filter\":[]\x7d,\x7b\"action\":\" Circle\"\x7d]"
    let other : Text := "[7,\x7b\x7d,\x7b\"action\":\"draw\"\x7d,\x7b\"action\":\" Circle\"\x7d]"
    ∃ plan : Plan Float, (decode (some text)).plan = .ok plan ∧
      plan.actions.length + (decode (some text)).notes.length = 5 ∧
      (decode (some other)).plan = .ok plan := by
  intro text other
  obtain ⟨circle, accepted⟩ : ∃ circle, (decode (some text)).plan = .ok ⟨[.circle circle]⟩ :=
    ⟨_, rfl⟩
  let erase : Json := .object [("action", .text "erase"), ("filter", .list [])]
  let before : List Json := [.integer 7, .object [], .object [("action", .text "draw")]]
  let after : List Json := [.object [("action", .text " Circle")]]
  obtain ⟨items, document, count, -, -, -, without⟩ := items_accounted_for accepted
  have written : documentOf (Fence.strip text) = .ok (before ++ erase :: after) := rfl
  obtain rfl := Except.ok.inj (document.symm.trans written)
  have known : Action.kindOf? "erase" = some .erase := by decide +kernel
  have reason : erase.SkippedFor (.malformedFilter "erase" "list") :=
    .malformedFilter rfl known (by decide) rfl
  obtain ⟨front, back, -, -, again⟩ := without before erase after _ rfl reason
  exact ⟨_, accepted, count.symm, congrArg Reading.plan (again (some other) rfl)⟩

end Plan

end DrawingPlan
