import DrawingPlan.Number.Decimal
import DrawingPlan.Text.Blank

set_option autoImplicit false

namespace DrawingPlan.Number

theorem spanDigits_eq_iff {symbols : List Symbol} {values : List Nat} :
    spanDigits symbols = (values, []) ↔ symbols.map Symbol.digitValue? = values.map some := by
  induction symbols generalizing values with
  | nil => cases values <;> simp [spanDigits]
  | cons symbol rest ih =>
    cases value : symbol.digitValue? with
    | none => cases values <;> simp [spanDigits, value]
    | some d =>
      cases values with
      | nil => simp [spanDigits, value]
      | cons first others =>
        have later := @ih others
        simp only [Prod.ext_iff] at later
        simp [spanDigits, value, ← later, and_assoc]

theorem splitSign_cases (symbols : List Symbol) :
    symbols = (splitSign symbols).2 ∨ symbols = .char '+' :: (splitSign symbols).2 ∨
      symbols = .char '-' :: (splitSign symbols).2 := by
  unfold splitSign
  split <;> simp

theorem splitSign_of_digit {symbol : Symbol} (digit : symbol.isDigit = true)
    (rest : List Symbol) : splitSign (symbol :: rest) = (false, symbol :: rest) := by
  unfold splitSign
  split
  -- No sign is a digit.
  next same =>
    obtain ⟨rfl, rfl⟩ := List.cons.inj same
    exact absurd digit (by decide)
  next same =>
    obtain ⟨rfl, rfl⟩ := List.cons.inj same
    exact absurd digit (by decide)
  next => rfl

theorem readInteger?_eq_some_iff {symbols : List Symbol} {negative : Bool} {values : List Nat} :
    readInteger? symbols = some (negative, values) ↔
      values ≠ [] ∧ (splitSign symbols).1 = negative ∧
        (splitSign symbols).2.map Symbol.digitValue? = values.map some := by
  rw [← spanDigits_eq_iff]
  rcases spanned : spanDigits (splitSign symbols).2 with ⟨found, after⟩
  cases found with
  | nil =>
    simp only [readInteger?, spanned]
    constructor
    · intro read
      cases read
    · rintro ⟨nonempty, -, same⟩
      exact absurd (congrArg Prod.fst same).symm nonempty
  | cons d rest =>
    cases after with
    | cons symbol others => simp [readInteger?, spanned]
    | nil =>
      simp only [readInteger?, spanned, Option.some.injEq, Prod.mk.injEq, and_true]
      constructor
      · rintro ⟨rfl, rfl⟩
        exact ⟨by simp, rfl, rfl⟩
      · rintro ⟨-, rfl, rfl⟩
        exact ⟨rfl, rfl⟩

theorem values_of_digits {symbols : List Symbol}
    (digits : ∀ symbol ∈ symbols, symbol.isDigit = true) :
    ∃ values : List Nat, symbols.map Symbol.digitValue? = values.map some := by
  induction symbols with
  | nil => exact ⟨[], rfl⟩
  | cons symbol rest ih =>
    obtain ⟨d, isD⟩ := Option.isSome_iff_exists.mp (digits symbol (by simp))
    obtain ⟨values, same⟩ := ih (fun other member => digits other (List.mem_cons_of_mem _ member))
    exact ⟨d :: values, by simp [isD, same]⟩

theorem digits_of_values {symbols : List Symbol} {values : List Nat}
    (same : symbols.map Symbol.digitValue? = values.map some) :
    ∀ symbol ∈ symbols, symbol.isDigit = true := by
  intro symbol member
  have value : symbol.digitValue? ∈ values.map some := same ▸ List.mem_map_of_mem member
  obtain ⟨d, -, isD⟩ := List.mem_map.mp value
  simp [Symbol.isDigit, ← isD]

section Limit

variable {digits : List Nat}

theorem integerOf_of_short (short : digits.length ≤ digitLimit) (negative : Bool) :
    integerOf negative digits =
      .ok (if negative then -(ofDigits digits : Int) else ofDigits digits) := by
  simp [integerOf, Nat.not_lt.mpr short]

theorem integerOf_of_long (long : digitLimit < digits.length) (negative : Bool) :
    integerOf negative digits = .error digits.length :=
  if_pos long

end Limit

def Signed (symbols digits : List Symbol) : Prop :=
  symbols = digits ∨ symbols = .char '+' :: digits ∨ symbols = .char '-' :: digits

theorem splitSign_of_signed {symbols digits : List Symbol} (signed : Signed symbols digits)
    (nonempty : digits ≠ []) (all : ∀ symbol ∈ digits, symbol.isDigit = true) :
    (splitSign symbols).2 = digits := by
  rcases signed with rfl | rfl | rfl
  · cases symbols with
    | nil => exact absurd rfl nonempty
    | cons symbol rest => rw [splitSign_of_digit (all symbol (by simp))]
  · rfl
  · rfl

def HasDigits (count : Nat) (text : Text) : Prop :=
  ∃ digits, Signed text.trim.symbols digits ∧ (∀ symbol ∈ digits, symbol.isDigit = true) ∧
    digits.length = count

theorem hasDigits_iff {text : Text} {count : Nat} (positive : 0 < count) :
    HasDigits count text ↔ ∃ negative values,
      readInteger? text.trim.symbols = some (negative, values) ∧ values.length = count := by
  constructor
  · rintro ⟨digits, signed, all, rfl⟩
    have nonempty : digits ≠ [] := List.length_pos_iff.mp positive
    obtain ⟨values, same⟩ := values_of_digits all
    have size : values.length = digits.length := by simpa using (congrArg List.length same).symm
    refine ⟨_, values, readInteger?_eq_some_iff.mpr ⟨?_, rfl, ?_⟩, size⟩
    · rw [← List.length_pos_iff, size]
      exact positive
    · rw [splitSign_of_signed signed nonempty all]
      exact same
  · rintro ⟨negative, values, read, rfl⟩
    obtain ⟨-, -, same⟩ := readInteger?_eq_some_iff.mp read
    exact ⟨_, splitSign_cases _, digits_of_values same, by simpa using congrArg List.length same⟩

end DrawingPlan.Number
