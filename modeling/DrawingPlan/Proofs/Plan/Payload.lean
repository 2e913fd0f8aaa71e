import DrawingPlan.Plan.Decoding
import DrawingPlan.Proofs.Json.Trim
import DrawingPlan.Proofs.Plan.Fence

set_option autoImplicit false

namespace DrawingPlan

namespace Fence

def InfoSymbol (symbol : Symbol) : Prop :=
  ∃ c : Char, symbol = .char c ∧ (c.isAlphanum = true ∨ c = '_' ∨ c = '+' ∨ c = '-')

theorem InfoSymbol.isInfo {symbol : Symbol} (named : InfoSymbol symbol) :
    isInfo symbol = true := by
  obtain ⟨c, rfl, letter | rfl | rfl | rfl⟩ := named
  · simp [Fence.isInfo, Symbol.satisfies, letter]
  all_goals rfl

theorem InfoSymbol.not_isGap {symbol : Symbol} (named : InfoSymbol symbol) :
    isGap symbol = false := by
  rw [Bool.eq_false_iff]
  intro gap
  have blank : symbol = .char ' ' ∨ symbol = .char '\t' := by simpa [isGap] using gap
  rcases blank with rfl | rfl
  all_goals cases named.isInfo

def LineBreak (symbols : List Symbol) : Prop :=
  symbols = [.char '\n'] ∨ symbols = [.char '\r', .char '\n']

theorem dropInfo_line {info lineBreak : List Symbol} (named : ∀ symbol ∈ info, InfoSymbol symbol)
    (broken : LineBreak lineBreak) (body : List Symbol) :
    dropInfo (info ++ lineBreak ++ body) = body := by
  have gap : (lineBreak ++ body).dropWhile isGap = lineBreak ++ body := by
    rcases broken with rfl | rfl <;> rfl
  have start : (info ++ lineBreak ++ body).dropWhile isGap = info ++ lineBreak ++ body := by
    cases info with
    | nil => exact gap
    | cons symbol rest => simp [(named symbol List.mem_cons_self).not_isGap]
  have line : (info ++ lineBreak ++ body).dropWhile isInfo = lineBreak ++ body := by
    rw [List.append_assoc,
      List.dropWhile_append_of_pos fun symbol member => (named symbol member).isInfo]
    rcases broken with rfl | rfl <;> rfl
  rw [dropInfo, start, line, gap]
  rcases broken with rfl | rfl <;> rfl

theorem backtick_not_mem_line {info lineBreak : List Symbol}
    (named : ∀ symbol ∈ info, InfoSymbol symbol) (broken : LineBreak lineBreak) :
    backtick ∉ info ++ lineBreak := by
  intro member
  rcases List.mem_append.mp member with word | line
  · cases (named backtick word).isInfo
  · rcases broken with rfl | rfl <;> simp [backtick] at line

end Fence

namespace Decoded

theorem actions_ofItems (items : List Json) :
    (ofItems items).actions =
      (items.mapM Action.decode).map (List.filterMap Except.toOption) := by
  induction items with
  | nil => rfl
  | cons item rest ih =>
    rw [List.mapM_cons]
    cases read : Action.decode item with
    | error fault => simp only [ofItems, read]; rfl
    | ok found =>
      cases found with
      | error skip =>
        simp only [ofItems, read, ih]
        cases rest.mapM Action.decode <;> rfl
      | ok action =>
        simp only [ofItems, read, ih]
        cases rest.mapM Action.decode <;> rfl

end Decoded

namespace Plan

def ofItems (items : List Json) : Except PlanFault (Plan Float) :=
  match items.mapM Action.decode with
  | .error fault => .error (.fault fault)
  | .ok results => .ok ⟨results.filterMap Except.toOption⟩

theorem decode_of_strip [Json.Nesting] {text other : Text}
    (same : Fence.strip text = Fence.strip other) :
    decode (some text) = decode (some other) := by
  simp [decode, same]

theorem plan_of_document [Json.Nesting] {text : Text} {items : List Json}
    (document : documentOf (Fence.strip text) = .ok items) :
    (decode (some text)).plan = ofItems items := by
  simp only [decode, Option.getD_some, document, ofItems, Decoded.actions_ofItems]
  cases items.mapM Action.decode <;> rfl

theorem payload_between_fences [Json.Nesting] (before info lineBreak body after : Text)
    (bare : Fence.Bare before.symbols) (named : ∀ symbol ∈ info.symbols, Fence.InfoSymbol symbol)
    (broken : Fence.LineBreak lineBreak.symbols) (plain : Fence.Bare body.symbols) :
    let fence : Text := ⟨Fence.mark⟩
    let answer := before ++ fence ++ info ++ lineBreak ++ body ++ fence ++ after
    Fence.strip answer = body.trim ∧ decode (some answer) = decode (some body) := by
  intro fence answer
  have pair : Fence.FirstPair answer.symbols before.symbols
      (info.symbols ++ lineBreak.symbols ++ body.symbols) after.symbols :=
    ⟨by simp [answer, fence, Text.symbols_append], bare,
      plain.append (Fence.backtick_not_mem_line named broken)⟩
  have stripped : Fence.strip answer = body.trim := by
    rw [Fence.strip, pair.stripSymbols, Fence.dropInfo_line named broken]
    rfl
  refine ⟨stripped, decode_of_strip ?_⟩
  rw [stripped, Fence.strip, Fence.stripSymbols_free plain.free]
  rfl

theorem payload_between_fences_of_ticked_list :
    let answer : Text :=
      "`Plan`:\n\x60\x60\x60json\r\n``[1]\n\x60\x60\x60\x60 ok \x60\x60\x60"
    Fence.strip answer = "``[1]" ∧ decode (some answer) = decode (some "``[1]\n") := by
  have named : ∀ symbol ∈ Text.symbols "json", Fence.InfoSymbol symbol := by
    intro symbol member
    have letters : symbol ∈ ['j', 's', 'o', 'n'].map Symbol.char := member
    obtain ⟨c, letter, rfl⟩ := List.mem_map.mp letters
    have alphanumeric : ['j', 's', 'o', 'n'].all Char.isAlphanum = true := rfl
    exact ⟨c, rfl, .inl (List.all_eq_true.mp alphanumeric c letter)⟩
  exact payload_between_fences "`Plan`:\n" "json" "\r\n" "``[1]\n" "\x60 ok \x60\x60\x60"
    ⟨by decide, by decide⟩ named (.inr rfl) ⟨by decide, by decide⟩

/-- A document that can be read is the payload, unless two fences stand in its strings. -/
theorem payload_of_document [Json.Nesting] {text : Text} {root : Json} {items : List Json}
    (readable : Json.read text = .ok root) (rooted : itemsOf root = .ok items) :
    (¬Fence.Twice text.symbols → (decode (some text)).plan = ofItems items) ∧
      (Fence.Twice text.symbols → ∃ before inside after,
        Fence.FirstPair text.symbols before inside after ∧
          decode (some text) = decode (some ⟨Fence.dropInfo inside⟩)) := by
  have trimmed := Json.read_trim readable
  refine ⟨fun single => plan_of_document ?_, fun twice => ?_⟩
  · have stripped : Fence.strip text = text.trim := by
      refine congrArg Text.mk (Fence.stripSymbols_single ?_ ?_)
      · exact fun twice => single (twice.of_part (Fence.trimSymbols_within _))
      · rintro ⟨rest, start⟩
        have first : text.trim.symbols.head? = some Fence.backtick := by
          simp [Text.trim, ← start, Fence.mark]
        exact Json.head?_of_clean (by decide) (by decide) (by decide)
          (Json.clean_of_read trimmed) first
    have written : text.trim ≠ "" := by
      intro empty
      rw [empty] at trimmed
      cases trimmed
    simp only [documentOf, stripped, written, if_false, trimmed]
    exact rooted
  · obtain ⟨before, inside, after, pair⟩ := Fence.FirstPair.of_twice twice
    refine ⟨before, inside, after, pair, decode_of_strip ?_⟩
    have free : ¬Fence.mark <:+: Fence.dropInfo inside := fun within =>
      pair.inside.free (within.trans (Fence.dropInfo_suffix inside).isInfix)
    rw [Fence.strip, Fence.strip, pair.stripSymbols, Fence.stripSymbols_free free]

theorem payload_of_document_of_fenced_names :
    let block (name : Text) : Json :=
      .object [("action", .text "insert_block"), ("name", .text name)]
    let kept : Text :=
      "\n[\x7b\"action\":\"insert_block\",\"name\":\"\x60\x60\x60A\"\x7d] "
    let taken : Text :=
      "[\x7b\"action\":\"insert_block\",\"name\":\"\x60\x60\x60[]\x60\x60\x60\"\x7d]"
    (decode (some kept)).plan = ofItems [block "\x60\x60\x60A"] ∧
      ∃ before inside after, Fence.FirstPair taken.symbols before inside after ∧
        decode (some taken) = decode (some ⟨Fence.dropInfo inside⟩) := by
  intro block kept taken
  have single : Json.read kept = .ok (.list [block "\x60\x60\x60A"]) := rfl
  have double : Json.read taken = .ok (.list [block "\x60\x60\x60[]\x60\x60\x60"]) := rfl
  exact ⟨(payload_of_document single rfl).1 (by decide),
    (payload_of_document double rfl).2 (by decide)⟩

/-- A word between fences in a text: it is taken for the name of a language, and nothing is left. -/
theorem document_cut_at_its_strings :
    let words : Text := "run \x60\x60\x60cad\x60\x60\x60 first"
    let text : Text :=
      "\x7b\"action\":\"insert_block\",\"name\":\"NOTE\"," ++
        "\"attributes\":\x7b\"TEXT\":\"run \x60\x60\x60cad\x60\x60\x60 first\"\x7d\x7d"
    let root : Json := .object [("action", .text "insert_block"), ("name", .text "NOTE"),
      ("attributes", .object [("TEXT", .text words)])]
    Json.read text = .ok root ∧ itemsOf root = .ok [root] ∧
      (∃ action, ofItems [root] = .ok ⟨[.insertBlock action]⟩ ∧ action.name = "NOTE" ∧
        action.attributes = [(("TEXT" : Text), words)]) ∧
      (decode (some text)).plan = .error (.refused .empty) := by
  intro words text root
  exact ⟨rfl, rfl, ⟨InsertBlock.read root, rfl, rfl, rfl⟩, rfl⟩

end Plan

end DrawingPlan
