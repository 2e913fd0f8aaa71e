import DrawingPlan.Plan.Fence
import DrawingPlan.Proofs.Text.Blank
import Mathlib.Data.List.Infix

set_option autoImplicit false

namespace DrawingPlan.Fence

def mark : List Symbol :=
  [backtick, backtick, backtick]

theorem opens_iff {symbols : List Symbol} : opens symbols = true ↔ mark <+: symbols := by
  unfold opens
  split
  · simp [mark, List.cons_prefix_cons, @eq_comm _ backtick, and_assoc]
  · next short =>
    simp only [Bool.false_eq_true, false_iff]
    rintro ⟨rest, rfl⟩
    exact short _ _ _ _ rfl

/-- Text without a fence, and without a backtick at its end, which a fence after it would share. -/
structure Bare (symbols : List Symbol) : Prop where
  free : ¬mark <:+: symbols
  last : symbols.getLast? ≠ some backtick

theorem Bare.of_suffix {symbols rest : List Symbol} (bare : Bare symbols)
    (tail : rest <:+ symbols) : Bare rest where
  free inside := bare.free (inside.trans tail.isInfix)
  last := by
    obtain ⟨front, rfl⟩ := tail
    cases rest with
    | nil => simp
    | cons symbol others => simpa using bare.last

theorem Bare.append {front rest : List Symbol} (plain : backtick ∉ front) (bare : Bare rest) :
    Bare (front ++ rest) where
  free inside := by
    induction front with
    | nil => exact bare.free inside
    | cons symbol others ih =>
      obtain ⟨other, plain⟩ : backtick ≠ symbol ∧ backtick ∉ others := by simpa using plain
      rcases List.infix_cons_iff.mp inside with start | later
      · exact other (List.cons_prefix_cons.mp start).1
      · exact ih plain later
  last := by
    cases rest with
    | nil =>
      intro same
      exact plain (by simpa using List.mem_of_mem_getLast? same)
    | cons symbol others => simpa using bare.last

/-- Fences that do not overlap. -/
def Twice (symbols : List Symbol) : Prop :=
  ∃ before between after, symbols = before ++ mark ++ between ++ mark ++ after

structure FirstPair (symbols before inside after : List Symbol) : Prop where
  split : symbols = before ++ mark ++ inside ++ mark ++ after
  before : Bare before
  inside : Bare inside

theorem cut_of_bare {before : List Symbol} (bare : Bare before) (after : List Symbol) :
    cut (before ++ mark ++ after) = some (before, after) := by
  induction before with
  | nil => simp [mark, cut, opens]
  | cons symbol rest ih =>
    have later := ih (bare.of_suffix (List.suffix_cons symbol rest))
    have closed : opens (symbol :: rest ++ mark ++ after) = false := by
      rw [Bool.eq_false_iff, ne_eq, opens_iff]
      intro opening
      -- The fence would lie in the text before, or its first backtick would be the last one there.
      rcases rest with _ | ⟨second, _ | ⟨third, others⟩⟩
      · obtain ⟨rfl, -⟩ := List.cons_prefix_cons.mp opening
        exact bare.last rfl
      · obtain ⟨rfl, later⟩ := List.cons_prefix_cons.mp opening
        obtain ⟨rfl, -⟩ := List.cons_prefix_cons.mp later
        exact bare.last rfl
      · obtain ⟨rfl, later⟩ := List.cons_prefix_cons.mp opening
        obtain ⟨rfl, last⟩ := List.cons_prefix_cons.mp later
        obtain ⟨rfl, -⟩ := List.cons_prefix_cons.mp last
        exact bare.free ⟨[], others, rfl⟩
    simp only [List.cons_append] at closed ⊢
    rw [cut, closed, later]
    rfl

theorem cut_of_mark (before rest : List Symbol) :
    ∃ front opened, cut (before ++ mark ++ rest) = some (front, opened) ∧ rest <:+ opened := by
  induction before with
  | nil => exact ⟨[], rest, by simp [mark, cut, opens], List.suffix_refl rest⟩
  | cons symbol others ih =>
    rw [List.cons_append, List.cons_append, cut]
    split
    -- The first fence may begin here and lie over the one that stands behind `others`.
    · have enough : 2 ≤ (others ++ mark).length := by simp [mark]
      exact ⟨_, _, rfl, List.drop_append_of_le_length enough ▸ List.suffix_append _ _⟩
    · obtain ⟨front, opened, found, tail⟩ := ih
      exact ⟨symbol :: front, opened, by rw [found]; rfl, tail⟩

theorem bare_of_cut {symbols before after : List Symbol}
    (found : cut symbols = some (before, after)) : Bare before := by
  induction symbols generalizing before with
  | nil => cases found
  | cons symbol rest ih =>
    rw [cut] at found
    split at found
    · cases found
      exact ⟨by simp [mark], by simp⟩
    · next closed =>
      cases later : cut rest with
      | none =>
        rw [later] at found
        cases found
      | some parts =>
        obtain ⟨inner, tail⟩ := parts
        rw [later] at found
        cases found
        have bare := ih later
        obtain rfl := eq_of_cut later
        rw [opens_iff] at closed
        refine ⟨fun inside => ?_, fun final => ?_⟩
        · rcases List.infix_cons_iff.mp inside with start | within
          · exact closed (start.trans ⟨mark ++ tail, by simp [mark]⟩)
          · exact bare.free within
        · cases inner with
          | nil =>
            obtain rfl : symbol = backtick := by simpa using final
            exact closed ⟨backtick :: tail, rfl⟩
          | cons second others => exact bare.last (by simpa using final)

theorem dropLineBreak_suffix (symbols : List Symbol) : dropLineBreak symbols <:+ symbols := by
  -- A carriage return and a line feed each count only at the front.
  unfold dropLineBreak
  split
  · refine List.IsSuffix.trans ?_ (List.suffix_cons _ _)
    dsimp only
    split
    · exact List.suffix_cons _ _
    · exact List.suffix_refl _
  · dsimp only
    split
    · exact List.suffix_cons _ _
    · exact List.suffix_refl _

theorem dropInfo_suffix (symbols : List Symbol) : dropInfo symbols <:+ symbols :=
  (dropLineBreak_suffix _).trans <| (List.dropWhile_suffix _).trans <|
    (List.dropWhile_suffix _).trans (List.dropWhile_suffix _)

theorem FirstPair.of_twice {symbols : List Symbol} (twice : Twice symbols) :
    ∃ before inside after, FirstPair symbols before inside after := by
  obtain ⟨front, between, rest, rfl⟩ := twice
  obtain ⟨before, opened, first, tail⟩ := cut_of_mark front (between ++ mark ++ rest)
  obtain ⟨lead, rfl⟩ := tail
  obtain ⟨inside, after, second, -⟩ := cut_of_mark (lead ++ between) rest
  simp only [← List.append_assoc] at first second
  refine ⟨before, inside, after, ?_, bare_of_cut first, bare_of_cut second⟩
  rw [eq_of_cut first, eq_of_cut second]
  simp [mark]

theorem FirstPair.closed? {symbols before inside after : List Symbol}
    (pair : FirstPair symbols before inside after) : closed? symbols = some (dropInfo inside) := by
  have first := cut_of_bare pair.before (inside ++ mark ++ after)
  simp only [← List.append_assoc, ← pair.split] at first
  simp only [Fence.closed?, first, cut_of_bare pair.inside after, Option.bind_eq_bind,
    Option.bind_some, Option.pure_def]

theorem closed?_eq_none_iff {symbols : List Symbol} : closed? symbols = none ↔ ¬Twice symbols := by
  constructor
  · intro none twice
    obtain ⟨before, inside, after, pair⟩ := FirstPair.of_twice twice
    simp [pair.closed?] at none
  · intro single
    cases first : cut symbols with
    | none => simp [closed?, first]
    | some parts =>
      obtain ⟨before, opened⟩ := parts
      cases second : cut opened with
      | none => simp [closed?, first, second]
      | some parts =>
        obtain ⟨inside, after⟩ := parts
        refine absurd ⟨before, inside, after, ?_⟩ single
        rw [eq_of_cut first, eq_of_cut second]
        simp [mark]

instance : DecidablePred Twice := fun symbols =>
  decidable_of_iff (¬closed? symbols = none) (by rw [closed?_eq_none_iff, not_not])

theorem Twice.of_part {symbols part : List Symbol} (twice : Twice part)
    (inside : part <:+: symbols) : Twice symbols := by
  obtain ⟨front, rest, rfl⟩ := inside
  obtain ⟨before, between, after, rfl⟩ := twice
  exact ⟨front ++ before, between, after ++ rest, by simp⟩

theorem twice_mark_append_iff {rest : List Symbol} : Twice (mark ++ rest) ↔ mark <:+: rest := by
  constructor
  · rintro ⟨before, between, after, same⟩
    -- The second fence begins behind the first three symbols, whatever the first one is.
    have whole : between ++ mark ++ after <:+ mark ++ rest := ⟨before ++ mark, by simp [same]⟩
    have tail : between ++ mark ++ after <:+ rest := by
      refine List.suffix_of_suffix_length_le whole (List.suffix_append _ _) ?_
      have size := congrArg List.length same
      simp only [List.length_append, mark, List.length_cons, List.length_nil] at size ⊢
      omega
    exact List.IsInfix.trans ⟨between, after, rfl⟩ tail.isInfix
  · rintro ⟨between, after, rfl⟩
    exact ⟨[], between, after, by simp⟩

theorem trimSymbols_within (symbols : List Symbol) : Text.trimSymbols symbols <:+: symbols := by
  obtain ⟨lead, trail, -, -, same⟩ := Text.trimSymbols_split symbols
  exact ⟨lead, trail, by rw [List.append_assoc, ← same]⟩

/-- Without two fences the whole text is kept, unless it begins with one that is never closed. -/
theorem stripSymbols_single {symbols : List Symbol} (single : ¬Twice (Text.trimSymbols symbols))
    (start : ¬mark <+: Text.trimSymbols symbols) :
    stripSymbols symbols = Text.trimSymbols symbols := by
  simp [stripSymbols, closed?_eq_none_iff.mpr single, opens_iff, start]

theorem stripSymbols_free {symbols : List Symbol} (free : ¬mark <:+: symbols) :
    stripSymbols symbols = Text.trimSymbols symbols := by
  have trimmed : ¬mark <:+: Text.trimSymbols symbols :=
    fun inside => free (inside.trans (trimSymbols_within symbols))
  refine stripSymbols_single ?_ fun start => trimmed start.isInfix
  rintro ⟨before, between, after, same⟩
  exact trimmed ⟨before, between ++ mark ++ after, by simp [same]⟩

theorem stripSymbols_plain {symbols : List Symbol} (plain : backtick ∉ symbols) :
    stripSymbols symbols = Text.trimSymbols symbols :=
  stripSymbols_free fun inside => plain (inside.subset (by simp [mark]))

theorem FirstPair.trimSymbols {symbols before inside after : List Symbol}
    (pair : FirstPair symbols before inside after) :
    FirstPair (Text.trimSymbols symbols) (Text.trimStart before) inside (Text.trimEnd after) where
  split := by
    have solid : backtick.isBlank = false := by decide
    have kept := Text.trimSymbols_append solid solid before
      ([backtick, backtick] ++ inside ++ [backtick, backtick]) after
    simpa [pair.split, mark] using kept
  before := pair.before.of_suffix (List.dropWhile_suffix _)
  inside := pair.inside

/-- Of a text with two fences the first two decide, whatever stands around them. -/
theorem FirstPair.stripSymbols {symbols before inside after : List Symbol}
    (pair : FirstPair symbols before inside after) :
    stripSymbols symbols = Text.trimSymbols (dropInfo inside) := by
  simp [Fence.stripSymbols, pair.trimSymbols.closed?]

theorem twice_trimSymbols_iff {symbols : List Symbol} :
    Twice (Text.trimSymbols symbols) ↔ Twice symbols := by
  refine ⟨fun twice => twice.of_part (trimSymbols_within symbols), fun twice => ?_⟩
  obtain ⟨before, inside, after, pair⟩ := FirstPair.of_twice twice
  exact ⟨_, _, _, pair.trimSymbols.split⟩

theorem passes_line {line : List Symbol} (single : .char '\n' ∉ line) :
    ∀ symbol ∈ mark ++ line, decide (symbol ≠ .char '\n') = true := by
  have none : .char '\n' ∉ mark ++ line := by simp [mark, backtick, single]
  exact fun symbol member => decide_eq_true (ne_of_mem_of_not_mem member none)

theorem unclosed_of_line {line : List Symbol} (single : .char '\n' ∉ line) (rest : List Symbol) :
    unclosed (mark ++ (line ++ .char '\n' :: rest)) = rest := by
  rw [unclosed, ← List.append_assoc, List.dropWhile_append_of_pos (passes_line single)]
  simp

theorem unclosed_of_single {rest : List Symbol} (single : .char '\n' ∉ rest) :
    unclosed (mark ++ rest) = rest := by
  rw [unclosed, List.dropWhile_eq_nil_iff.mpr (passes_line single)]
  rfl

theorem unclosed_suffix (rest : List Symbol) : unclosed (mark ++ rest) <:+ rest := by
  by_cases broken : .char '\n' ∈ rest
  · obtain ⟨line, next, rfl, single⟩ := List.eq_append_cons_of_mem broken
    rw [unclosed_of_line single]
    exact (List.suffix_cons _ _).trans (List.suffix_append _ _)
  · rw [unclosed_of_single broken]

theorem stripSymbols_unclosed {symbols rest : List Symbol} (free : ¬mark <:+: rest)
    (start : Text.trimSymbols symbols = mark ++ rest) :
    stripSymbols symbols = Text.trimSymbols (unclosed (mark ++ rest)) := by
  have single : closed? (mark ++ rest) = none :=
    closed?_eq_none_iff.mpr fun twice => free (twice_mark_append_iff.mp twice)
  have opening : opens (mark ++ rest) = true := opens_iff.mpr (List.prefix_append _ _)
  simp [stripSymbols, start, single, opening]

end DrawingPlan.Fence
