import DrawingPlan.Text.Blank
import Mathlib.Data.List.Basic
import Mathlib.Data.List.TakeWhile

set_option autoImplicit false

namespace DrawingPlan

theorem Symbol.code_of_isBlank {symbol : Symbol} (blank : symbol.isBlank = true) :
    symbol.code ≤ 0x20 ∨ 0x85 ≤ symbol.code := by
  obtain ⟨range, member, low, high⟩ := (CharClass.has_iff _ _).mp blank
  simp only [blanks, List.mem_cons, List.not_mem_nil, or_false] at member
  rcases member with rfl | rfl | rfl | rfl | rfl | rfl | rfl | rfl | rfl | rfl
  all_goals
    simp only at low high
    omega

namespace Text

theorem trimStart_append {first : Symbol} (solid : first.isBlank = false)
    (before rest : List Symbol) :
    trimStart (before ++ first :: rest) = trimStart before ++ first :: rest := by
  induction before with
  | nil => simp [trimStart, solid]
  | cons symbol others ih =>
    simp only [trimStart] at ih
    cases blank : symbol.isBlank with
    | true => simpa [trimStart, blank] using ih
    | false => simp [trimStart, blank]

theorem trimEnd_append {last : Symbol} (solid : last.isBlank = false) (front rest : List Symbol) :
    trimEnd (front ++ last :: rest) = front ++ last :: trimEnd rest := by
  have start : trimEnd (last :: rest) = last :: trimEnd rest := by
    rw [trimEnd]
    cases trimEnd rest <;> simp [solid]
  induction front with
  | nil => exact start
  | cons symbol others ih =>
    rw [List.cons_append, trimEnd, ih]
    cases others <;> simp

theorem trimEnd_concat {last : Symbol} (solid : last.isBlank = false) (symbols : List Symbol) :
    trimEnd (symbols ++ [last]) = symbols ++ [last] :=
  trimEnd_append solid symbols []

theorem trimSymbols_cons {first : Symbol} (solid : first.isBlank = false) (rest : List Symbol) :
    trimSymbols (first :: rest) = first :: trimEnd rest := by
  rw [trimSymbols, trimStart, List.dropWhile_cons_of_neg (by simp [solid])]
  exact trimEnd_append solid [] rest

theorem trimSymbols_solid {symbols : List Symbol}
    (first : ∀ symbol ∈ symbols.head?, symbol.isBlank = false)
    (last : ∀ symbol ∈ symbols.getLast?, symbol.isBlank = false) :
    trimSymbols symbols = symbols := by
  -- Trimming at the end goes from the front, so that the last symbol has to be split off.
  rcases List.eq_nil_or_concat' symbols with rfl | ⟨front, final, rfl⟩
  · rfl
  · have start : trimStart (front ++ [final]) = front ++ [final] := by
      cases front with
      | nil => simp [trimStart, first final (by simp)]
      | cons symbol rest => simp [trimStart, first symbol (by simp)]
    rw [trimSymbols, start, trimEnd_concat (last final (by simp))]

theorem trimSymbols_blank {symbols : List Symbol} (blank : symbols.all Symbol.isBlank = true) :
    trimSymbols symbols = [] := by
  have start : trimStart symbols = [] := by
    simpa [trimStart, List.dropWhile_eq_nil_iff] using blank
  simp [trimSymbols, start, trimEnd]

theorem trimSymbols_of_lead {lead : List Symbol} (blank : ∀ symbol ∈ lead, symbol.isBlank = true)
    (rest : List Symbol) : trimSymbols (lead ++ rest) = trimSymbols rest := by
  rw [trimSymbols, trimStart, List.dropWhile_append_of_pos blank]
  rfl

theorem trimSymbols_append {first last : Symbol} (start : first.isBlank = false)
    (stop : last.isBlank = false) (before between after : List Symbol) :
    trimSymbols (before ++ first :: (between ++ last :: after)) =
      trimStart before ++ first :: (between ++ last :: trimEnd after) := by
  have grouped : trimStart before ++ first :: (between ++ last :: after) =
      (trimStart before ++ first :: between) ++ last :: after := by simp
  rw [trimSymbols, trimStart_append start, grouped, trimEnd_append stop]
  simp

theorem trimEnd_blank {symbols : List Symbol} (blank : ∀ symbol ∈ symbols, symbol.isBlank = true) :
    trimEnd symbols = [] := by
  induction symbols with
  | nil => rfl
  | cons symbol rest ih =>
    obtain ⟨own, others⟩ := List.forall_mem_cons.mp blank
    simp [trimEnd, ih others, own]

theorem trimSymbols_between {lead trail : List Symbol}
    (leading : ∀ symbol ∈ lead, symbol.isBlank = true)
    (trailing : ∀ symbol ∈ trail, symbol.isBlank = true) {word : List Symbol} (written : word ≠ [])
    (solid : ∀ symbol ∈ word, symbol.isBlank = false) :
    trimSymbols (lead ++ (word ++ trail)) = word := by
  have blank : trimStart lead = [] := by simpa [trimStart, List.dropWhile_eq_nil_iff] using leading
  have front : trimStart (lead ++ (word ++ trail)) = word ++ trail := by
    obtain ⟨first, rest, rfl⟩ := List.exists_cons_of_ne_nil written
    rw [List.cons_append, trimStart_append (solid first List.mem_cons_self), blank, List.nil_append]
  obtain ⟨rest, last, rfl⟩ := (List.eq_nil_or_concat' word).resolve_left written
  rw [trimSymbols, front, List.append_assoc, List.singleton_append,
    trimEnd_append (solid last (by simp)), trimEnd_blank trailing]

theorem trimStart_split (symbols : List Symbol) :
    ∃ lead, (∀ symbol ∈ lead, symbol.isBlank = true) ∧ symbols = lead ++ trimStart symbols :=
  ⟨symbols.takeWhile Symbol.isBlank, fun _ member => List.mem_takeWhile_imp member,
    List.takeWhile_append_dropWhile.symm⟩

theorem trimEnd_split (symbols : List Symbol) :
    ∃ trail, (∀ symbol ∈ trail, symbol.isBlank = true) ∧ symbols = trimEnd symbols ++ trail := by
  induction symbols with
  | nil => exact ⟨[], by simp, rfl⟩
  | cons symbol rest ih =>
    obtain ⟨trail, blank, same⟩ := ih
    cases kept : trimEnd rest with
    | cons first others =>
      rw [kept] at same
      exact ⟨trail, blank, by simp [trimEnd, kept, ← same]⟩
    | nil =>
      have rest_eq : rest = trail := by simpa [kept] using same
      subst rest_eq
      cases solid : symbol.isBlank with
      | true => exact ⟨symbol :: rest, by simpa [solid] using blank, by simp [trimEnd, kept, solid]⟩
      | false => exact ⟨rest, blank, by simp [trimEnd, kept, solid]⟩

theorem trimEnd_prefix (symbols : List Symbol) : trimEnd symbols <+: symbols := by
  obtain ⟨trail, -, same⟩ := trimEnd_split symbols
  exact ⟨trail, same.symm⟩

theorem trimSymbols_split (symbols : List Symbol) :
    ∃ lead trail, (∀ symbol ∈ lead, symbol.isBlank = true) ∧
      (∀ symbol ∈ trail, symbol.isBlank = true) ∧
      symbols = lead ++ (trimSymbols symbols ++ trail) := by
  obtain ⟨lead, leading, front⟩ := trimStart_split symbols
  obtain ⟨trail, trailing, back⟩ := trimEnd_split (trimStart symbols)
  refine ⟨lead, trail, leading, trailing, ?_⟩
  rw [trimSymbols, ← back]
  exact front

structure Trimmed (symbols : List Symbol) : Prop where
  first : ∀ symbol ∈ symbols.head?, symbol.isBlank = false
  last : ∀ symbol ∈ symbols.getLast?, symbol.isBlank = false

theorem Trimmed.trimSymbols_eq {symbols : List Symbol} (trimmed : Trimmed symbols) :
    trimSymbols symbols = symbols :=
  trimSymbols_solid trimmed.first trimmed.last

theorem trimStart_first (symbols : List Symbol) :
    ∀ symbol ∈ (trimStart symbols).head?, symbol.isBlank = false := by
  intro symbol first
  have solid := List.head?_dropWhile_not Symbol.isBlank symbols
  rw [trimStart, Option.mem_def] at first
  simpa [first] using solid

theorem trimEnd_last (symbols : List Symbol) :
    ∀ symbol ∈ (trimEnd symbols).getLast?, symbol.isBlank = false := by
  induction symbols with
  | nil => simp [trimEnd]
  | cons symbol rest ih =>
    cases kept : trimEnd rest with
    | nil => cases solid : symbol.isBlank <;> simp [trimEnd, kept, solid]
    | cons first others =>
      rw [kept] at ih
      simpa [trimEnd, kept] using ih

theorem trimmed_trimSymbols (symbols : List Symbol) : Trimmed (trimSymbols symbols) where
  first := by
    -- What is cut off at the end leaves the first symbol, unless nothing is left at all.
    obtain ⟨trail, -, same⟩ := trimEnd_split (trimStart symbols)
    intro symbol first
    have kept : (trimEnd (trimStart symbols)).head? = some symbol := first
    refine trimStart_first symbols symbol ?_
    rw [same, List.head?_append, kept]
    rfl
  last := trimEnd_last _

end Text

end DrawingPlan
