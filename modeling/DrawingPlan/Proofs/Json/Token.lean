import DrawingPlan.Json.Token

set_option autoImplicit false

namespace DrawingPlan.Json

def Plain (symbol : Symbol) : Prop :=
  symbol ≠ .char '"' ∧ symbol ≠ .char '\\' ∧ 0x1F < symbol.code

theorem scanString_plain {symbols : List Symbol} (plain : ∀ symbol ∈ symbols, Plain symbol)
    (offset : Nat) (rest : List Symbol) :
    scanString offset (symbols ++ .char '"' :: rest) =
      .ok (symbols.map .symbol, offset + symbols.length) := by
  induction symbols generalizing offset with
  | nil => simp [scanString]
  | cons symbol others ih =>
    obtain ⟨noQuote, noBackslash, printable⟩ := plain symbol (by simp)
    have later := ih (fun other member => plain other (List.mem_cons_of_mem _ member)) (offset + 1)
    have bound : ¬symbol.code ≤ 0x1F := by omega
    rw [List.cons_append, scanString]
    · simp only [bound, if_false, later, Scanned.cons, List.map_cons, List.length_cons]
      congr 2
      omega
    -- The symbol is none of those for which a string is read in another way.
    all_goals simp_all

theorem joinUnits_map_symbol (symbols : List Symbol) :
    joinUnits (symbols.map .symbol) = symbols := by
  induction symbols with
  | nil => rfl
  | cons symbol rest ih => simp [joinUnits, ih]

theorem tokensFrom_skip (read rest : List Symbol) (position : Nat) :
    tokensFrom read.length position (read ++ rest) =
      tokensFrom 0 (position + read.length) rest := by
  induction read generalizing position with
  | nil => rfl
  | cons symbol others ih =>
    rw [List.length_cons, List.cons_append, tokensFrom, ih]
    congr 1
    omega

theorem tokensFrom_plain {symbols : List Symbol} (plain : ∀ symbol ∈ symbols, Plain symbol)
    (position : Nat) (rest : List Symbol) :
    tokensFrom 0 position (.char '"' :: (symbols ++ .char '"' :: rest)) =
      ⟨.value (.text ⟨symbols⟩), position⟩ ::
        tokensFrom 0 (position + symbols.length + 2) rest := by
  have scanned : scanToken (.char '"' :: (symbols ++ .char '"' :: rest)) =
      (.value (.text ⟨symbols⟩), 1 + symbols.length + 1) := by
    simp only [scanToken, scanString_plain plain, joinUnits_map_symbol]
  have skipped := tokensFrom_skip (symbols ++ [.char '"']) rest (position + 1)
  have size : 1 + symbols.length + 1 - 1 = (symbols ++ [Symbol.char '"']).length := by
    simp only [List.length_append, List.length_singleton]
    omega
  have place : position + 1 + (symbols ++ [Symbol.char '"']).length =
      position + symbols.length + 2 := by
    simp only [List.length_append, List.length_singleton]
    omega
  rw [List.append_assoc, List.singleton_append, place, ← size] at skipped
  simpa [tokensFrom, isSpace, scanned, Token.last] using skipped

end DrawingPlan.Json
