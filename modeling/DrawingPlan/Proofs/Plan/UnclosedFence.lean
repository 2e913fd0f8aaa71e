import DrawingPlan.Proofs.Plan.Payload

set_option autoImplicit false

namespace DrawingPlan

namespace Fence

def Gap (symbols : List Symbol) : Prop :=
  ∀ symbol ∈ symbols, symbol = .char ' ' ∨ symbol = .char '\t'

theorem Gap.isGap {separator : List Symbol} (gap : Gap separator) :
    ∀ symbol ∈ separator, isGap symbol = true := by
  intro symbol member
  rcases gap symbol member with rfl | rfl <;> rfl

theorem Gap.isInfo {separator : List Symbol} (gap : Gap separator) :
    ∀ symbol ∈ separator, isInfo symbol = false := by
  intro symbol member
  rcases gap symbol member with rfl | rfl <;> rfl

theorem Gap.isBlank {separator : List Symbol} (gap : Gap separator) :
    ∀ symbol ∈ separator, symbol.isBlank = true := by
  intro symbol member
  rcases gap symbol member with rfl | rfl <;> decide

theorem InfoSymbol.isBlank {symbol : Symbol} (named : InfoSymbol symbol) :
    symbol.isBlank = false := by
  obtain ⟨c, rfl, letter | rfl | rfl | rfl⟩ := named
  · have classes : (decide (65 ≤ c.val ∧ c.val ≤ 90) ||
        (decide (97 ≤ c.val) && decide (c.val ≤ 122)) ||
        (decide (48 ≤ c.val) && decide (c.val ≤ 57))) = true := letter
    have ranges : (65 ≤ c.toNat ∧ c.toNat ≤ 90 ∨ 97 ≤ c.toNat ∧ c.toNat ≤ 122) ∨
        48 ≤ c.toNat ∧ c.toNat ≤ 57 := by
      simpa [UInt32.le_iff_toNat_le] using classes
    rw [Bool.eq_false_iff]
    intro blank
    have outside := Symbol.code_of_isBlank blank
    simp only [Symbol.code] at outside
    omega
  all_goals decide

theorem named_of_letters {word : String} (letters : word.toList.all Char.isAlphanum = true) :
    ∀ symbol ∈ Text.symbols word, InfoSymbol symbol := by
  intro symbol member
  obtain ⟨c, letter, rfl⟩ := List.mem_map.mp member
  exact ⟨c, rfl, .inl (List.all_eq_true.mp letters c letter)⟩

def Bracket (symbol : Symbol) : Prop :=
  symbol = .char '\x7b' ∨ symbol = .char '['

theorem Bracket.isBlank {bracket : Symbol} (opens : Bracket bracket) :
    bracket.isBlank = false := by
  rcases opens with rfl | rfl <;> decide

theorem Bracket.kept {bracket : Symbol} (opens : Bracket bracket) (rest : List Symbol) :
    (bracket :: rest).dropWhile Fence.isGap = bracket :: rest ∧
      (bracket :: rest).dropWhile Fence.isInfo = bracket :: rest ∧
      dropLineBreak (bracket :: rest) = bracket :: rest := by
  rcases opens with rfl | rfl <;> exact ⟨rfl, rfl, rfl⟩

theorem dropInfo_gap {info separator rest : List Symbol} {bracket : Symbol}
    (named : ∀ symbol ∈ info, InfoSymbol symbol) (gap : Gap separator) (opens : Bracket bracket) :
    dropInfo (info ++ separator ++ bracket :: rest) = bracket :: rest := by
  obtain ⟨noGap, noInfo, noBreak⟩ := opens.kept rest
  have behind : (separator ++ bracket :: rest).dropWhile isGap = bracket :: rest := by
    rw [List.dropWhile_append_of_pos gap.isGap, noGap]
  have line : (((info ++ separator ++ bracket :: rest).dropWhile isGap).dropWhile
      isInfo).dropWhile isGap = bracket :: rest := by
    cases info with
    | nil => rw [List.nil_append, behind, noInfo, noGap]
    | cons letter letters =>
      have word : (separator ++ bracket :: rest).dropWhile isInfo =
          separator ++ bracket :: rest := by
        cases separator with
        | nil => exact noInfo
        | cons blank blanks => simp [gap.isInfo blank List.mem_cons_self]
      have start : (letter :: (letters ++ separator ++ bracket :: rest)).dropWhile isGap =
          letter :: letters ++ (separator ++ bracket :: rest) := by
        simp [(named letter List.mem_cons_self).not_isGap]
      have named := fun symbol member => (named symbol member).isInfo
      rw [List.cons_append, List.cons_append, start, List.dropWhile_append_of_pos named, word,
        behind]
  rw [dropInfo, line, noBreak]

structure Opening (info separator payload : List Symbol) : Prop where
  named : ∀ symbol ∈ info, InfoSymbol symbol
  separated : Gap separator ∨ LineBreak separator
  starts : ∃ bracket rest, Bracket bracket ∧ payload = bracket :: rest
  bare : Bare payload

namespace Opening

variable {info separator payload : List Symbol} (opening : Opening info separator payload)

include opening

theorem dropInfo_eq : dropInfo (info ++ separator ++ payload) = payload := by
  rcases opening.separated with gap | broken
  · obtain ⟨bracket, rest, opens, rfl⟩ := opening.starts
    exact dropInfo_gap opening.named gap opens
  · exact dropInfo_line opening.named broken payload

theorem backtick_not_mem : backtick ∉ info ++ separator := by
  rcases opening.separated with gap | broken
  · intro member
    rcases List.mem_append.mp member with word | blank
    · cases (opening.named backtick word).isInfo
    · cases gap.isGap backtick blank
  · exact backtick_not_mem_line opening.named broken

theorem stripSymbols_closed :
    stripSymbols (mark ++ info ++ separator ++ payload ++ mark) = Text.trimSymbols payload := by
  have pair : FirstPair (mark ++ info ++ separator ++ payload ++ mark) []
      (info ++ separator ++ payload) [] :=
    ⟨by simp, ⟨by simp [mark], by simp⟩, opening.bare.append opening.backtick_not_mem⟩
  rw [pair.stripSymbols, opening.dropInfo_eq]

theorem stripSymbols_unclosed :
    stripSymbols (mark ++ info ++ separator ++ payload) =
      Text.trimSymbols (unclosed (mark ++ (info ++ separator ++ Text.trimSymbols payload))) := by
  obtain ⟨bracket, rest, opens, rfl⟩ := opening.starts
  have kept := Text.trimSymbols_cons opens.isBlank rest
  have free : ¬mark <:+: info ++ separator ++ Text.trimSymbols (bracket :: rest) := by
    have shorter : info ++ separator ++ bracket :: Text.trimEnd rest <+:
        info ++ separator ++ bracket :: rest :=
      (List.prefix_append_right_inj _).mpr
        (List.cons_prefix_cons.mpr ⟨rfl, Text.trimEnd_prefix rest⟩)
    rw [kept]
    exact fun within => (opening.bare.append opening.backtick_not_mem).free
      (within.trans shorter.isInfix)
  refine Fence.stripSymbols_unclosed free ?_
  have solid : backtick.isBlank = false := by decide
  have trimmed := Text.trimSymbols_append solid opens.isBlank []
    ([backtick, backtick] ++ info ++ separator) rest
  simpa [mark, kept, Text.trimStart] using trimmed

theorem single_info : .char '\n' ∉ info := by
  intro member
  cases (opening.named _ member).isInfo

theorem trimSymbols_ne_nil : Text.trimSymbols payload ≠ [] := by
  obtain ⟨bracket, rest, opens, rfl⟩ := opening.starts
  simp [Text.trimSymbols_cons opens.isBlank]

theorem stripSymbols_of_lineBreak (broken : LineBreak separator) :
    stripSymbols (mark ++ info ++ separator ++ payload) = Text.trimSymbols payload := by
  obtain ⟨line, single, ended⟩ : ∃ line, .char '\n' ∉ line ∧
      info ++ separator = line ++ [.char '\n'] := by
    rcases broken with rfl | rfl
    · exact ⟨info, opening.single_info, rfl⟩
    · exact ⟨info ++ [.char '\r'], by simp [opening.single_info], by simp⟩
  have same : info ++ separator ++ Text.trimSymbols payload =
      line ++ .char '\n' :: Text.trimSymbols payload := by
    rw [ended, List.append_assoc, List.singleton_append]
  rw [opening.stripSymbols_unclosed, same, unclosed_of_line single,
    (Text.trimmed_trimSymbols payload).trimSymbols_eq]

theorem single_of_gap (gap : Gap separator) : .char '\n' ∉ info ++ separator := by
  intro member
  rcases List.mem_append.mp member with word | blank
  · exact opening.single_info word
  · cases gap.isGap _ blank

theorem stripSymbols_of_lines (gap : Gap separator) {line rest : List Symbol}
    (single : .char '\n' ∉ line) (lines : Text.trimSymbols payload = line ++ .char '\n' :: rest) :
    stripSymbols (mark ++ info ++ separator ++ payload) = Text.trimSymbols rest := by
  have first : .char '\n' ∉ info ++ separator ++ line :=
    fun member => (List.mem_append.mp member).elim (opening.single_of_gap gap) single
  rw [opening.stripSymbols_unclosed, lines, ← List.append_assoc (info ++ separator),
    unclosed_of_line first]

theorem stripSymbols_of_line (gap : Gap separator)
    (single : .char '\n' ∉ Text.trimSymbols payload) :
    stripSymbols (mark ++ info ++ separator ++ payload) =
      if info = [] then Text.trimSymbols payload
      else info ++ separator ++ Text.trimSymbols payload := by
  have line : .char '\n' ∉ info ++ separator ++ Text.trimSymbols payload :=
    fun member => (List.mem_append.mp member).elim (opening.single_of_gap gap) single
  have trimmed := Text.trimmed_trimSymbols payload
  rw [opening.stripSymbols_unclosed, unclosed_of_single line]
  split
  next bare =>
    rw [bare, List.nil_append, Text.trimSymbols_of_lead gap.isBlank, trimmed.trimSymbols_eq]
  next named =>
    obtain ⟨letter, letters, rfl⟩ := List.exists_cons_of_ne_nil named
    refine Text.Trimmed.trimSymbols_eq ⟨?_, ?_⟩
    · simpa using (opening.named letter List.mem_cons_self).isBlank
    · rw [List.getLast?_append_of_ne_nil _ opening.trimSymbols_ne_nil]
      exact trimmed.last

theorem stripSymbols_alike_iff :
    stripSymbols (mark ++ info ++ separator ++ payload) = Text.trimSymbols payload ↔
      LineBreak separator ∨ info = [] ∧ .char '\n' ∉ Text.trimSymbols payload := by
  by_cases broken : LineBreak separator
  · simp only [opening.stripSymbols_of_lineBreak broken, broken, true_or]
  · have gap := opening.separated.resolve_right broken
    by_cases lines : .char '\n' ∈ Text.trimSymbols payload
    -- What follows a line break is shorter than the payload, and trimming does not add to it.
    · obtain ⟨line, rest, split, single⟩ := List.eq_append_cons_of_mem lines
      have bound := (trimSymbols_within rest).length_le
      simp only [opening.stripSymbols_of_lines gap single split, broken, lines, not_true, and_false,
        or_false, iff_false]
      intro same
      rw [same, split] at bound
      simp only [List.length_append, List.length_cons] at bound
      omega
    · rw [opening.stripSymbols_of_line gap lines]
      by_cases bare : info = []
      · simp [bare, lines]
      · have longer : info ++ separator ++ Text.trimSymbols payload ≠ Text.trimSymbols payload := by
          intro same
          have size := congrArg List.length same
          have named := List.length_pos_iff.mpr bare
          simp only [List.length_append] at size
          omega
        simp only [bare, broken, if_false, longer, false_and, or_false]

end Opening

end Fence

namespace Plan

/--
An answer is read alike with and without its closing fence exactly when the payload begins on a line
of its own, or is a single line behind a fence that names no language.
-/
theorem unclosed_read_alike_iff [Json.Nesting] {info separator payload : Text}
    (opening : Fence.Opening info.symbols separator.symbols payload.symbols) :
    let fence : Text := ⟨Fence.mark⟩
    let opened := fence ++ info ++ separator ++ payload
    let closed := opened ++ fence
    Fence.strip closed = payload.trim ∧
      (Fence.strip opened = Fence.strip closed ↔ Fence.LineBreak separator.symbols ∨
        info = "" ∧ .char '\n' ∉ payload.trim.symbols) ∧
      (¬Fence.LineBreak separator.symbols → ∀ line rest : List Symbol, .char '\n' ∉ line →
        payload.trim.symbols = line ++ .char '\n' :: rest →
        Fence.strip opened = Text.trim ⟨rest⟩) ∧
      (¬Fence.LineBreak separator.symbols → info ≠ "" → .char '\n' ∉ payload.trim.symbols →
        Fence.strip opened = info ++ separator ++ payload.trim) ∧
      (Fence.strip opened = Fence.strip closed → decode (some opened) = decode (some closed)) := by
  intro fence opened closed
  have wordless : info = "" ↔ info.symbols = [] := by
    cases info
    simp [Text.ofString]
  have whole : Fence.strip closed = payload.trim := congrArg Text.mk opening.stripSymbols_closed
  refine ⟨whole, ?_, fun onLine line rest single lines => ?_, fun onLine named single => ?_,
    decode_of_strip⟩
  · have symbols : Fence.strip opened = payload.trim ↔
        Fence.stripSymbols opened.symbols = Text.trimSymbols payload.symbols := by
      rw [Fence.strip, Text.trim, Text.mk.injEq]
    rw [whole, wordless, symbols]
    exact opening.stripSymbols_alike_iff
  · have gap := opening.separated.resolve_right onLine
    exact congrArg Text.mk (opening.stripSymbols_of_lines gap single lines)
  · have gap := opening.separated.resolve_right onLine
    have read := opening.stripSymbols_of_line gap single
    rw [if_neg (mt wordless.mpr named)] at read
    exact congrArg Text.mk read

theorem unclosed_read_alike_of_lines :
    let payload : Text := "[\x7b\"action\":\n\"circle\"\x7d]\n"
    let opened : Text := "\x60\x60\x60json\r\n[\x7b\"action\":\n\"circle\"\x7d]\n"
    let closed : Text := "\x60\x60\x60json\r\n[\x7b\"action\":\n\"circle\"\x7d]\n\x60\x60\x60"
    Fence.Opening (Text.symbols "json") (Text.symbols "\r\n") payload.symbols ∧
      Fence.strip opened = payload.trim ∧ decode (some opened) = decode (some closed) := by
  intro payload opened closed
  have opening : Fence.Opening (Text.symbols "json") (Text.symbols "\r\n") payload.symbols :=
    ⟨Fence.named_of_letters rfl, .inr (.inr rfl), ⟨_, _, .inr rfl, rfl⟩, by decide, by decide⟩
  obtain ⟨whole, alike, -, -, reads⟩ := unclosed_read_alike_iff opening
  have same := alike.mpr (.inl (.inr rfl))
  exact ⟨opening, same.trans whole, reads same⟩

theorem unclosed_language_is_read :
    let payload : Text := "[\x7b\"action\":\"circle\"\x7d]"
    let opened : Text := "\x60\x60\x60json [\x7b\"action\":\"circle\"\x7d]"
    let closed : Text := "\x60\x60\x60json [\x7b\"action\":\"circle\"\x7d]\x60\x60\x60"
    Fence.strip closed = payload ∧
      (∃ circle, (decode (some closed)).plan = .ok ⟨[.circle circle]⟩) ∧
      Fence.strip opened = "json [\x7b\"action\":\"circle\"\x7d]" ∧
      (∃ fault, (decode (some opened)).plan = .error (.refused (.notJson fault))) ∧
      ¬∀ info separator payload : Text,
        Fence.Opening info.symbols separator.symbols payload.symbols →
        Fence.strip (⟨Fence.mark⟩ ++ info ++ separator ++ payload) =
          Fence.strip (⟨Fence.mark⟩ ++ info ++ separator ++ payload ++ ⟨Fence.mark⟩) := by
  intro payload opened closed
  refine ⟨by decide, ⟨_, rfl⟩, by decide, ⟨_, rfl⟩, fun claimed => ?_⟩
  have opening : Fence.Opening (Text.symbols "json") (Text.symbols " ") payload.symbols :=
    ⟨Fence.named_of_letters rfl, .inl (by simp [Fence.Gap, Text.ofString]), ⟨_, _, .inr rfl, rfl⟩,
      by decide, by decide⟩
  have same := claimed "json" " " payload opening
  revert same
  decide

end Plan

end DrawingPlan
