import DrawingPlan.Assistant.Commands
import DrawingPlan.Proofs.Execution.Run
import DrawingPlan.Proofs.Json.Token
import DrawingPlan.Proofs.Plan.Decoding
import DrawingPlan.Proofs.Plan.Fence

set_option autoImplicit false

namespace DrawingPlan.Command

theorem carryOut_cases (plan : Plan Float) (notes : List Note) (drawing : Drawing Float) :
    ∃ outcome, (carryOut plan notes drawing).2 = .ok outcome ∧
      (outcome.ok = true ∨ drawing.Alike (carryOut plan notes drawing).1.drawing) := by
  rcases plan.run_cases Registry.standard_orderly drawing with done | ⟨error, failed, unchanged⟩
  · have ended : (carryOut plan notes drawing).2 =
        .ok { ok := true, message := said " Plan executed.", actions := plan.actions.length } := by
      simp only [carryOut, done]
    exact ⟨_, ended, Or.inl rfl⟩
  · obtain ⟨outcome, ended⟩ : ∃ outcome, (carryOut plan notes drawing).2 = .ok outcome := by
      simp only [carryOut, failed]
      exact ⟨_, rfl⟩
    have same : drawing.Alike (carryOut plan notes drawing).1.drawing := by
      simpa only [carryOut, failed] using unchanged
    exact ⟨outcome, ended, Or.inr same⟩

theorem apply_all_or_nothing [Json.Nesting] (text : Option Text) (drawing : Drawing Float)
    (failed : ∀ outcome, (apply text drawing).2 = .ok outcome → outcome.ok = false) :
    drawing.Alike (apply text drawing).1.drawing := by
  cases read : (Plan.decode text).plan with
  | error fault => cases fault <;> simpa only [apply, read] using .refl drawing
  | ok plan =>
    simp only [apply, read] at failed ⊢
    obtain ⟨outcome, ended, good | unchanged⟩ :=
      carryOut_cases plan (Plan.decode text).notes drawing
    · have bad := failed outcome ended
      rw [good] at bad
      cases bad
    · exact unchanged

theorem apply_all_or_nothing_of_failed_move :
    let text : Text :=
      "[\x7b\"action\":\"circle\",\"layer\":\"WIRE\"\x7d,\x7b\"action\":\"move\"\x7d]"
    let line : Entity Float := { geometry := some (.line ⟨0, 0⟩ ⟨1, 1⟩) }
    let drawing := (Drawing.empty.append line).append { geometry := none }
    (∃ outcome, (apply (some text) drawing).2 = .ok outcome ∧ outcome.actions = 2 ∧
      outcome.ok = false) ∧
      (apply (some text) drawing).1.drawing = drawing := by
  intro text line drawing
  obtain ⟨outcome, ended, actions, bad⟩ : ∃ outcome,
      (apply (some text) drawing).2 = .ok outcome ∧ outcome.actions = 2 ∧ outcome.ok = false := by
    have told : ((apply (some text) drawing).2.map fun outcome =>
        (outcome.actions, outcome.ok)).toOption = some (2, false) := by decide +kernel
    obtain ⟨outcome, ended, both⟩ := exists_ok_of_map told
    obtain ⟨actions, bad⟩ := Prod.mk.inj both
    exact ⟨outcome, ended, actions, bad⟩
  refine ⟨⟨outcome, ended, actions, bad⟩, (apply_all_or_nothing (some text) drawing ?_).whole ?_⟩
  · intro other same
    rw [ended] at same
    cases same
    exact bad
  · intro entity member definition made
    simp only [drawing, Drawing.append, Drawing.empty, List.nil_append, List.cons_append,
      List.mem_cons, List.not_mem_nil, or_false] at member
    rcases member with rfl | rfl <;> cases made

def Overlong [Json.Nesting] (text : Option Text) : Prop :=
  ∃ item ∈ Plan.itemsIn text, ∃ count, item.OverlongColor count

theorem apply_error_iff_decode [Json.Nesting] {text : Option Text} {drawing : Drawing Float}
    {raised : Raised} :
    (apply text drawing).2 = .error raised ↔
      ∃ fault, raised = .fault fault ∧ (Plan.decode text).plan = .error (.fault fault) := by
  cases read : (Plan.decode text).plan with
  | ok plan =>
    obtain ⟨outcome, ended, -⟩ := carryOut_cases plan (Plan.decode text).notes drawing
    simp [apply, read, ended]
  | error stopped => cases stopped <;> simp [apply, read, eq_comm]

theorem apply_error_iff [Json.Nesting] {text : Option Text} {drawing : Drawing Float}
    {raised : Raised} :
    (apply text drawing).2 = .error raised ↔ ∃ count, raised = .fault (.digits count) ∧
      Decoded.FirstOverlong count (Plan.itemsIn text) := by
  rw [apply_error_iff_decode]
  constructor
  · rintro ⟨fault, rfl, failed⟩
    obtain ⟨count, rfl, first⟩ := Plan.decode_fault_iff.mp failed
    exact ⟨count, rfl, first⟩
  · rintro ⟨count, rfl, first⟩
    exact ⟨_, rfl, Plan.decode_fault_iff.mpr ⟨count, rfl, first⟩⟩

theorem apply_ok_iff [Json.Nesting] {text : Option Text} {drawing : Drawing Float} :
    (∃ outcome, (apply text drawing).2 = .ok outcome) ↔ ¬Overlong text := by
  rw [Overlong, ← Decoded.exists_firstOverlong_iff]
  cases ended : (apply text drawing).2 with
  | ok outcome =>
    have none : ¬∃ count, Decoded.FirstOverlong count (Plan.itemsIn text) := by
      rintro ⟨count, first⟩
      have failed : (apply text drawing).2 = .error (.fault (.digits count)) :=
        apply_error_iff.mpr ⟨count, rfl, first⟩
      rw [ended] at failed
      cases failed
    simp [none]
  | error raised =>
    obtain ⟨count, -, first⟩ := apply_error_iff.mp ended
    have known : ∃ count, Decoded.FirstOverlong count (Plan.itemsIn text) := ⟨count, first⟩
    simp [known]

theorem mapM_kind_ok_iff {α : Type} {entities : List (Entity α)} :
    (∃ kinds, entities.mapM Entity.kind = .ok kinds) ↔
      ∀ entity ∈ entities, entity.geometry.isSome = true := by
  induction entities with
  | nil => simp [Pure.pure, Except.pure]
  | cons entity rest ih =>
    rw [List.mapM_cons, List.forall_mem_cons, ← ih]
    cases shape : entity.geometry <;>
      cases later : rest.mapM Entity.kind <;>
        simp [Entity.kind, Entity.kind?, shape, Bind.bind, Except.bind, Pure.pure, Except.pure]

theorem itemsIn_blank [Json.Nesting] {raw : Text} (blank : raw.isBlank = true) :
    Plan.itemsIn (some raw) = [] := by
  have trimmed : Text.trimSymbols raw.symbols = [] := Text.trimSymbols_blank blank
  have stripped : Fence.strip raw = "" := by
    simp only [Fence.strip, Fence.stripSymbols, trimmed]
    rfl
  simp [Plan.itemsIn, stripped, Plan.documentOf]
  rfl

theorem draw_ok_iff [Json.Nesting] {answer : Except TransportError Text} {drawing : Drawing Float} :
    (∃ messages, (draw answer drawing).2 = .ok messages) ↔
      (∀ entity ∈ drawing.liveEntities, entity.geometry.isSome = true) ∧
        ∀ raw, answer = .ok raw → ¬Overlong (some raw) := by
  rw [← mapM_kind_ok_iff]
  cases counted : drawing.liveEntities.mapM Entity.kind with
  | error fault => simp [draw, Drawing.liveKinds, counted]
  | ok kinds =>
    cases answer with
    | error error => simp [draw, Drawing.liveKinds, counted]
    | ok raw =>
      by_cases blank : raw.isBlank = true
      · simp [draw, Drawing.liveKinds, counted, blank, Overlong, itemsIn_blank blank]
      -- Whatever is not blank is handed on as it is, blanks included.
      · have applied : (∃ outcome, (apply (some raw) drawing).2 = .ok outcome) ↔ _ := apply_ok_iff
        cases ended : (apply (some raw) drawing).2 <;> rw [ended] at applied <;>
          simpa [draw, Drawing.liveKinds, counted, blank, ended, Except.map] using applied

structure Boundary [Json.Nesting] (drawing : Drawing Float) : Prop where
  applies : ∀ text, (∃ outcome, (apply text drawing).2 = .ok outcome) ↔ ¬Overlong text
  raises : ∀ text raised, (apply text drawing).2 = .error raised →
    (apply text drawing).1.drawing = drawing ∧ ∃ count, raised = .fault (.digits count) ∧
      Decoded.FirstOverlong count (Plan.itemsIn text)
  draws : ∀ answer, (∃ messages, (draw answer drawing).2 = .ok messages) ↔
    (∀ entity ∈ drawing.liveEntities, entity.geometry.isSome = true) ∧
      ∀ raw, answer = .ok raw → ¬Overlong (some raw)

theorem boundary_exact [Json.Nesting] (drawing : Drawing Float) : Boundary drawing where
  applies _ := apply_ok_iff
  raises text raised escaped := by
    obtain ⟨fault, -, read⟩ := apply_error_iff_decode.mp escaped
    exact ⟨by simp only [apply, read], apply_error_iff.mp escaped⟩
  draws _ := draw_ok_iff

section Coloring

open Json

def coloring (color : List Symbol) : Text :=
  ⟨Text.symbols "\x7b\"action\":\"change_properties\",\"colorIndex\":" ++
    .char '"' :: (color ++ .char '"' :: [.char '\x7d'])⟩

variable {color : List Symbol}

theorem tokens_coloring (plain : ∀ symbol ∈ color, Plain symbol) :
    tokens (coloring color).symbols =
      [⟨.openObject, 0⟩, ⟨.value (.text "action"), 1⟩, ⟨.colon, 9⟩,
        ⟨.value (.text "change_properties"), 10⟩, ⟨.comma, 29⟩, ⟨.value (.text "colorIndex"), 30⟩,
        ⟨.colon, 42⟩, ⟨.value (.text ⟨color⟩), 43⟩, ⟨.closeObject, 43 + color.length + 2⟩] := by
  -- The tokens in front of the colour are the same for every colour.
  have opening (rest : List Symbol) : tokens (Text.symbols
      "\x7b\"action\":\"change_properties\",\"colorIndex\":" ++ rest) =
        ⟨.openObject, 0⟩ :: ⟨.value (.text "action"), 1⟩ :: ⟨.colon, 9⟩ ::
          ⟨.value (.text "change_properties"), 10⟩ :: ⟨.comma, 29⟩ ::
          ⟨.value (.text "colorIndex"), 30⟩ :: ⟨.colon, 42⟩ :: tokensFrom 0 43 rest := rfl
  rw [coloring, opening, tokensFrom_plain plain]
  rfl

theorem read_coloring (plain : ∀ symbol ∈ color, Plain symbol) :
    Json.read (coloring color) =
      .ok (.object [("action", .text "change_properties"), ("colorIndex", .text ⟨color⟩)]) := by
  have values : readTokens (coloring color).symbols =
      .ok (.object [("action", .text "change_properties"), ("colorIndex", .text ⟨color⟩)]) := by
    have whole : readTokens (coloring color).symbols =
        (tokens (coloring color).symbols).foldlM step (.forValue []) >>=
          finish (coloring color).symbols.length := rfl
    rw [whole, tokens_coloring plain]
    rfl
  simp only [Json.read, values]
  rfl

theorem strip_coloring (plain : Fence.backtick ∉ color) :
    Fence.strip (coloring color) = coloring color := by
  have trimmed : Text.trimSymbols (coloring color).symbols = (coloring color).symbols := by
    have closing : (coloring color).symbols =
        (Text.symbols "\x7b\"action\":\"change_properties\",\"colorIndex\":" ++
          .char '"' :: (color ++ [.char '"'])) ++ [.char '\x7d'] := by
      simp [coloring]
    apply Text.trimSymbols_solid
    · intro symbol head
      obtain rfl : symbol = .char '\x7b' := (Option.some.inj head).symm
      decide
    · intro symbol final
      rw [closing, List.getLast?_concat] at final
      obtain rfl : symbol = .char '\x7d' := (Option.some.inj final).symm
      decide
  have fenceless : Fence.backtick ∉ (coloring color).symbols := by
    rw [coloring]
    simp only [List.mem_append, List.mem_cons, plain, false_or, List.not_mem_nil, or_false]
    decide
  simp only [Fence.strip, Fence.stripSymbols_plain fenceless, trimmed]

theorem itemsIn_coloring (plain : ∀ symbol ∈ color, Plain symbol)
    (fenceless : Fence.backtick ∉ color) :
    Plan.itemsIn (some (coloring color)) =
      [.object [("action", .text "change_properties"), ("colorIndex", .text ⟨color⟩)]] := by
  have written : coloring color ≠ "" := by
    intro same
    cases congrArg Text.symbols same
  simp only [Plan.itemsIn, Option.getD_some, strip_coloring fenceless, Plan.documentOf, written,
    read_coloring plain]
  rfl

theorem overlong_ones {count : Nat} (long : Number.digitLimit < count) :
    Overlong (some (coloring (List.replicate count (.char '1')))) := by
  have plain : ∀ symbol ∈ List.replicate count (Symbol.char '1'), Plain symbol := by
    intro symbol member
    rw [List.eq_of_mem_replicate member]
    exact ⟨by decide, by decide, by decide⟩
  have fenceless : Fence.backtick ∉ List.replicate count (Symbol.char '1') := by
    intro member
    exact absurd (List.eq_of_mem_replicate member) (by decide)
  have trimmed : Text.trim ⟨List.replicate count (.char '1')⟩ =
      ⟨List.replicate count (.char '1')⟩ := by
    refine congrArg Text.mk (Text.trimSymbols_solid ?_ ?_)
    · intro symbol head
      rw [List.eq_of_mem_replicate (List.mem_of_mem_head? head)]
      decide
    · intro symbol final
      rw [List.eq_of_mem_replicate (List.mem_of_mem_getLast? final)]
      decide
  rw [Overlong, itemsIn_coloring plain fenceless]
  refine ⟨_, List.mem_singleton_self _, count, ⟨_, rfl, rfl⟩, Or.inl rfl, _, rfl, ?_, long⟩
  refine ⟨_, Or.inl rfl, ?_, ?_⟩
  · intro symbol member
    rw [trimmed] at member
    rw [List.eq_of_mem_replicate member]
    decide
  · rw [trimmed]
    simp

end Coloring

theorem apply_lets_overlong_color_escape :
    ¬∀ text drawing, ∃ outcome, (apply text drawing).2 = .ok outcome := by
  intro claimed
  have escaping : Overlong (some (coloring (List.replicate 4301 (.char '1')))) :=
    overlong_ones (by decide)
  exact apply_ok_iff.mp (claimed _ Drawing.empty) escaping

end DrawingPlan.Command
