import DrawingPlan.Proofs.Plan.Fence

set_option autoImplicit false

namespace DrawingPlan.Fence

def Fenced (symbols : List Symbol) : Prop :=
  Twice symbols ∨ mark <+: symbols

theorem Fenced.mark_infix {symbols : List Symbol} (fenced : Fenced symbols) :
    mark <:+: symbols := by
  rcases fenced with ⟨before, between, after, rfl⟩ | start
  · exact ⟨before, between ++ mark ++ after, by simp⟩
  · exact start.isInfix

theorem stripSymbols_of_not_fenced {symbols : List Symbol}
    (unfenced : ¬Fenced (Text.trimSymbols symbols)) :
    stripSymbols symbols = Text.trimSymbols symbols := by
  obtain ⟨single, start⟩ := not_or.mp unfenced
  exact stripSymbols_single single start

theorem free_of_fenced {symbols : List Symbol} (fenced : Fenced (Text.trimSymbols symbols)) :
    ¬mark <:+: stripSymbols symbols := by
  by_cases twice : Twice symbols
  -- The payload stands between the first fence and the next one.
  · obtain ⟨before, inside, after, pair⟩ := FirstPair.of_twice twice
    rw [pair.stripSymbols]
    exact fun within => pair.inside.free <|
      (within.trans (trimSymbols_within _)).trans (dropInfo_suffix inside).isInfix
  -- Another fence behind the first one would close it.
  · obtain ⟨rest, start⟩ := fenced.resolve_left (mt twice_trimSymbols_iff.mp twice)
    have free : ¬mark <:+: rest := by
      rw [← twice_mark_append_iff, start, twice_trimSymbols_iff]
      exact twice
    rw [stripSymbols_unclosed free start.symm]
    exact fun within => free <|
      (within.trans (trimSymbols_within _)).trans (unclosed_suffix rest).isInfix

theorem trimmed_stripSymbols (symbols : List Symbol) : Text.Trimmed (stripSymbols symbols) := by
  unfold stripSymbols
  dsimp only
  split
  · exact Text.trimmed_trimSymbols _
  · split <;> exact Text.trimmed_trimSymbols _

structure Normal (symbols : List Symbol) : Prop where
  trimmed : Text.Trimmed symbols
  unfenced : ¬Fenced symbols

theorem Normal.stripSymbols_eq {symbols : List Symbol} (normal : Normal symbols) :
    stripSymbols symbols = symbols := by
  have same := normal.trimmed.trimSymbols_eq
  rw [stripSymbols_of_not_fenced (by rw [same]; exact normal.unfenced), same]

theorem normal_stripSymbols (symbols : List Symbol) : Normal (stripSymbols symbols) where
  trimmed := trimmed_stripSymbols symbols
  unfenced := by
    by_cases fenced : Fenced (Text.trimSymbols symbols)
    · exact fun again => free_of_fenced fenced again.mark_infix
    · rw [stripSymbols_of_not_fenced fenced]
      exact fenced

theorem mark_infix_trimSymbols_iff {symbols : List Symbol} :
    mark <:+: Text.trimSymbols symbols ↔ mark <:+: symbols := by
  refine ⟨fun inside => inside.trans (trimSymbols_within symbols), ?_⟩
  rintro ⟨before, after, rfl⟩
  have solid : backtick.isBlank = false := by decide
  refine ⟨Text.trimStart before, Text.trimEnd after, ?_⟩
  simpa [mark] using (Text.trimSymbols_append solid solid before [backtick] after).symm

/-- A fence stays in a text only where it stands alone, and not at the front. -/
theorem strip_normalizes (text : Text) :
    Text.Trimmed (strip text).symbols ∧ strip (strip text) = strip text ∧
      (mark <:+: (strip text).symbols ↔
        mark <:+: text.symbols ∧ ¬Twice text.symbols ∧ ¬mark <+: text.trim.symbols) := by
  have normal := normal_stripSymbols text.symbols
  refine ⟨normal.trimmed, congrArg Text.mk normal.stripSymbols_eq, ?_⟩
  have unfenced : ¬Fenced (Text.trimSymbols text.symbols) ↔
      ¬Twice text.symbols ∧ ¬mark <+: text.trim.symbols := by
    rw [Fenced, not_or, twice_trimSymbols_iff]
    rfl
  rw [← unfenced]
  constructor
  · intro kept
    have alone := mt free_of_fenced (not_not_intro kept)
    rw [strip, stripSymbols_of_not_fenced alone, mark_infix_trimSymbols_iff] at kept
    exact ⟨kept, alone⟩
  · rintro ⟨written, alone⟩
    rw [strip, stripSymbols_of_not_fenced alone]
    exact mark_infix_trimSymbols_iff.mpr written

end DrawingPlan.Fence
