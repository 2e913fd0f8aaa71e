import DrawingPlan.Json.Reader
import DrawingPlan.Proofs.Json.Token
import DrawingPlan.Proofs.Json.Trim
import DrawingPlan.Proofs.Number.Decimal

set_option autoImplicit false

namespace DrawingPlan.Json

open Number

def digit (d : Fin 10) : Symbol :=
  .char (Char.ofNat (48 + d))

def digitSymbols (digits : List (Fin 10)) : List Symbol :=
  digits.map digit

def values (digits : List (Fin 10)) : List Nat :=
  digits.map Fin.val

@[simp] theorem length_digitSymbols (digits : List (Fin 10)) :
    (digitSymbols digits).length = digits.length :=
  List.length_map _

@[simp] theorem length_values (digits : List (Fin 10)) : (values digits).length = digits.length :=
  List.length_map _

@[simp] theorem values_eq_nil_iff {digits : List (Fin 10)} : values digits = [] ↔ digits = [] :=
  List.map_eq_nil_iff

structure Power where
  upper : Bool
  sign : Option Bool
  digits : List (Fin 10)
  written : digits ≠ []

/-- A number as written. There is no point without digits after it, and no zero before a digit. -/
structure Literal where
  negative : Bool
  whole : List (Fin 10)
  fraction : List (Fin 10)
  power : Option Power
  written : whole ≠ []
  leading : whole.head? = some 0 → whole = [0]

def signSymbols : Option Bool → List Symbol
  | none => []
  | some true => [.char '-']
  | some false => [.char '+']

def fractionSymbols : List (Fin 10) → List Symbol
  | [] => []
  | d :: digits => .char '.' :: digitSymbols (d :: digits)

namespace Power

def mark (power : Power) : Symbol :=
  if power.upper then .char 'E' else .char 'e'

def unmarked (power : Power) : List Symbol :=
  signSymbols power.sign ++ digitSymbols power.digits

def symbols : Option Power → List Symbol
  | none => []
  | some power => power.mark :: power.unmarked

def size (power : Power) : Int :=
  let size : Int := ofDigits (values power.digits)
  if power.sign = some true then -size else size

end Power

namespace Literal

def tail (literal : Literal) : List Symbol :=
  fractionSymbols literal.fraction ++ Power.symbols literal.power

def unsigned (literal : Literal) : List Symbol :=
  digitSymbols literal.whole ++ literal.tail

def symbols (literal : Literal) : List Symbol :=
  if literal.negative then .char '-' :: literal.unsigned else literal.unsigned

def plain (literal : Literal) : Bool :=
  literal.fraction.isEmpty && literal.power.isNone

def numeral (literal : Literal) : Numeral where
  negative := literal.negative
  whole := values literal.whole
  fraction := values literal.fraction
  exponent := (literal.power.map Power.size).getD 0

def token (literal : Literal) : Token :=
  numberToken literal.negative (values literal.whole) (values literal.fraction)
    (literal.power.map Power.size)

end Literal

section Digits

variable (d : Fin 10)

theorem isDigit_digit : (digit d).satisfies Char.isDigit = true := by
  revert d
  decide

theorem code_digit : (digit d).code - 48 = d := by
  revert d
  decide

theorem digitValue?_digit : (digit d).digitValue? = some d.val := by
  revert d
  decide

theorem isBlank_digit : (digit d).isBlank = false := by
  revert d
  decide

theorem digit_ne_sign : digit d ≠ .char '-' ∧ digit d ≠ .char '+' := by
  revert d
  decide

theorem isSpace_digit : isSpace (digit d) = false := by
  revert d
  decide

theorem digit_not_mem_starters : digit d ∉ starters := by
  revert d
  decide

theorem isDigit_of_digit : (digit d).isDigit = true := by
  simp [Symbol.isDigit, digitValue?_digit]

theorem digit_eq_zero_iff : digit d = .char '0' ↔ d = 0 := by
  revert d
  decide

theorem scanWord_digit (rest : List Symbol) :
    scanWord (digit d :: rest) = none ∧ scanWord (.char '-' :: digit d :: rest) = none := by
  have strange := digit_not_mem_starters d
  simp only [starters, List.cons_append, List.mem_cons, List.mem_append, not_or,
    List.not_mem_nil, or_false] at strange
  obtain ⟨-, -, minus, n, t, f, upperN, upperI⟩ := strange
  constructor <;>
    simp [scanWord, words, Text.ofString, Ne.symm minus, Ne.symm n, Ne.symm t, Ne.symm f,
      Ne.symm upperN, Ne.symm upperI]

end Digits

theorem exists_first {digits : List (Fin 10)} (written : digits ≠ []) :
    ∃ d rest, digits = d :: rest ∧ digitSymbols digits = digit d :: digitSymbols rest ∧
      values digits = d.val :: values rest := by
  obtain ⟨d, rest, rfl⟩ := List.exists_cons_of_ne_nil written
  exact ⟨d, rest, rfl, rfl, rfl⟩

theorem spanAscii_digits (digits : List (Fin 10)) (rest : List Symbol)
    (ends : ∀ symbol ∈ rest.head?, symbol.satisfies Char.isDigit = false) :
    spanAscii (digitSymbols digits ++ rest) = (values digits, rest) := by
  induction digits with
  | nil =>
    cases rest with
    | nil => rfl
    | cons symbol others => simp [spanAscii, digitSymbols, values, ends symbol (by simp)]
  | cons d digits ih =>
    simp only [digitSymbols, values] at ih ⊢
    simp [spanAscii, isDigit_digit, code_digit, ih]

theorem spanDigits_digits (digits : List (Fin 10)) (rest : List Symbol)
    (ends : ∀ symbol ∈ rest.head?, symbol.digitValue? = none) :
    spanDigits (digitSymbols digits ++ rest) = (values digits, rest) := by
  induction digits with
  | nil =>
    cases rest with
    | nil => rfl
    | cons symbol others => simp [spanDigits, digitSymbols, values, ends symbol (by simp)]
  | cons d digits ih =>
    simp only [digitSymbols, values] at ih ⊢
    simp [spanDigits, digitValue?_digit, ih]

section Powers

theorem splitSign_unmarked (power : Power) :
    splitSign power.unmarked = (decide (power.sign = some true), digitSymbols power.digits) ∧
      signLength power.unmarked = (signSymbols power.sign).length := by
  obtain ⟨upper, sign, digits, written⟩ := power
  cases sign with
  | some negative => cases negative <;> exact ⟨rfl, rfl⟩
  | none =>
    obtain ⟨d, rest, rfl, first, -⟩ := exists_first written
    have unsigned := splitSign_of_digit (isDigit_of_digit d) (digitSymbols rest)
    obtain ⟨minus, plus⟩ := digit_ne_sign d
    exact ⟨by simpa [Power.unmarked, signSymbols, first] using unsigned,
      by simp [Power.unmarked, signSymbols, first, signLength, minus, plus]⟩

theorem isExponentMark_mark (power : Power) : isExponentMark power.mark = true := by
  unfold Power.mark
  split <;> rfl

theorem exponent?_symbols (power : Option Power) :
    exponent? (Power.symbols power) =
      power.map fun found => (found.size, (Power.symbols power).length) := by
  cases power with
  | none => rfl
  | some power =>
    obtain ⟨signed, length⟩ := splitSign_unmarked power
    have spanned := spanAscii_digits power.digits [] (by simp)
    obtain ⟨d, rest, digits, -, value⟩ := exists_first power.written
    have count : power.digits.length = rest.length + 1 := by simp [digits]
    rw [List.append_nil, value] at spanned
    simp only [Power.symbols, exponent?, isExponentMark_mark, if_true, signed, length, spanned]
    simp [Power.size, Power.unmarked, value, count]
    omega

theorem readExponent?_symbols (power : Option Power) :
    readExponent? (Power.symbols power) = some ((power.map Power.size).getD 0) := by
  cases power with
  | none => rfl
  | some power =>
    obtain ⟨signed, -⟩ := splitSign_unmarked power
    have spanned := spanDigits_digits power.digits [] (by simp)
    obtain ⟨d, rest, -, -, value⟩ := exists_first power.written
    rw [List.append_nil, value] at spanned
    simp only [Power.symbols, readExponent?, isExponentMark_mark, if_true, signed, spanned]
    simp [Power.size, value]

theorem head?_symbols (power : Option Power) {symbol : Symbol}
    (first : symbol ∈ (Power.symbols power).head?) :
    symbol.satisfies Char.isDigit = false ∧ symbol.digitValue? = none ∧ symbol ≠ .char '.' := by
  cases power with
  | none => cases first
  | some power =>
    obtain rfl : power.mark = symbol := by simpa [Power.symbols] using first
    unfold Power.mark
    split <;> decide

theorem isBlank_digitSymbols (digits : List (Fin 10)) :
    ∀ symbol ∈ digitSymbols digits, symbol.isBlank = false :=
  List.forall_mem_map.mpr fun d _ => isBlank_digit d

theorem isBlank_powerSymbols (power : Option Power) :
    ∀ symbol ∈ Power.symbols power, symbol.isBlank = false := by
  cases power with
  | none => simp [Power.symbols]
  | some power =>
    refine List.forall_mem_cons.mpr ⟨?_, List.forall_mem_append.mpr ⟨?_, isBlank_digitSymbols _⟩⟩
    · unfold Power.mark
      split <;> decide
    · rcases power.sign with _ | _ | _ <;> decide

end Powers

namespace Literal

variable (literal : Literal)

theorem head?_tail {symbol : Symbol} (first : symbol ∈ literal.tail.head?) :
    symbol.satisfies Char.isDigit = false ∧ symbol.digitValue? = none := by
  unfold tail at first
  cases fraction : literal.fraction with
  | nil =>
    rw [fraction] at first
    obtain ⟨ascii, digit, -⟩ := head?_symbols _ first
    exact ⟨ascii, digit⟩
  | cons d digits =>
    obtain rfl : Symbol.char '.' = symbol := by simpa [fraction, fractionSymbols] using first
    decide

theorem spanFraction_tail :
    spanFraction literal.tail = (values literal.fraction, Power.symbols literal.power) := by
  unfold tail
  cases literal.fraction with
  | nil =>
    cases after : Power.symbols literal.power with
    | nil => rfl
    | cons symbol rest =>
      have first : symbol ∈ (Power.symbols literal.power).head? := by simp [after]
      obtain ⟨-, -, point⟩ := head?_symbols _ first
      simp [fractionSymbols, spanFraction, point, values]
  | cons d digits =>
    have spanned := spanAscii_digits (d :: digits) (Power.symbols literal.power)
      fun symbol first => (head?_symbols _ first).1
    simp [fractionSymbols, spanFraction, spanned, values]

theorem spanWhole_unsigned : spanWhole literal.unsigned = (values literal.whole, literal.tail) := by
  obtain ⟨d, digits, whole, -, -⟩ := exists_first literal.written
  by_cases zero : d = 0
  · -- A zero stands alone.
    have alone := literal.leading (by simp [whole, zero])
    simp [unsigned, alone, digitSymbols, digit, spanWhole, values]
  · have first : digit d ≠ .char '0' := mt (digit_eq_zero_iff d).mp zero
    have spanned := spanAscii_digits literal.whole literal.tail
      fun symbol first => (literal.head?_tail first).1
    rw [unsigned, ← spanned]
    simp [whole, digitSymbols, spanWhole, first]

theorem scanNumber_unsigned :
    scanNumber literal.negative literal.unsigned =
      some (literal.token, literal.unsigned.length) := by
  obtain ⟨d, digits, whole, -, value⟩ := exists_first literal.written
  have count : literal.whole.length = digits.length + 1 := by simp [whole]
  -- The scanner adds up the lengths of the parts: a point counts with its digits only.
  have pointed : (fractionSymbols literal.fraction).length =
      if (values literal.fraction).isEmpty then 0 else (values literal.fraction).length + 1 := by
    cases literal.fraction <;> simp [fractionSymbols, values]
  have powered : (literal.power.map fun _ => (Power.symbols literal.power).length).getD 0 =
      (Power.symbols literal.power).length := by
    cases literal.power <;> rfl
  simp only [scanNumber, spanWhole_unsigned, value, spanFraction_tail, exponent?_symbols,
    Option.map_map, Function.comp_def, powered, ← pointed]
  simp [token, value, unsigned, tail, count, Nat.add_assoc]

theorem exists_symbols : ∃ d rest, literal.unsigned = digit d :: rest := by
  obtain ⟨d, digits, -, whole, -⟩ := exists_first literal.written
  exact ⟨d, digitSymbols digits ++ literal.tail, by simp [unsigned, whole]⟩

theorem scanToken_symbols :
    scanToken literal.symbols = (literal.token, literal.symbols.length) := by
  have number := literal.scanNumber_unsigned
  obtain ⟨d, rest, unsigned⟩ := literal.exists_symbols
  obtain ⟨bare, signed⟩ := scanWord_digit d rest
  rw [unsigned] at number
  cases sign : literal.negative with
  | true =>
    have symbols : literal.symbols = .char '-' :: digit d :: rest := by
      simp [symbols, sign, unsigned]
    rw [sign] at number
    rw [symbols, scanToken_other (by decide) (by decide), signed]
    simp [scanSigned, number]
  | false =>
    have symbols : literal.symbols = digit d :: rest := by simp [symbols, sign, unsigned]
    have minus := (digit_ne_sign d).1
    have strange := digit_not_mem_starters d
    simp only [starters, List.cons_append, List.mem_cons, List.mem_append, not_or] at strange
    rw [sign] at number
    rw [symbols, scanToken_other strange.1 strange.2.1, bare]
    simp [scanSigned, minus, number]

theorem starts : ∃ first rest, literal.symbols = first :: rest ∧ isSpace first = false ∧
    first ≠ .char '\uFEFF' := by
  obtain ⟨d, rest, unsigned⟩ := literal.exists_symbols
  cases sign : literal.negative with
  | true => exact ⟨.char '-', literal.unsigned, by simp [symbols, sign], by decide, by decide⟩
  | false =>
    refine ⟨digit d, rest, by simp [symbols, sign, unsigned], isSpace_digit d, fun marked => ?_⟩
    have ascii := isDigit_digit d
    rw [marked] at ascii
    revert ascii
    decide

theorem token_eq : literal.token =
    if literal.plain then
      match integerOf literal.negative (values literal.whole) with
      | .error count => .longInteger count
      | .ok n => .value (.integer n)
    else .value (.real literal.numeral.toFloat) := by
  have bare : ((values literal.fraction).isEmpty && (literal.power.map Power.size).isNone) =
      literal.plain := by
    simp [plain, values]
  rw [token, numberToken, bare]
  rfl

theorem tokens_symbols : tokens literal.symbols = [⟨literal.token, 0⟩] := by
  have scanned := literal.scanToken_symbols
  obtain ⟨first, rest, symbols, solid, -⟩ := literal.starts
  have last : literal.token.last = false := by
    rw [token_eq]
    split
    · split <;> rfl
    · rfl
  have skipped := tokensFrom_skip rest [] 1
  rw [symbols] at scanned ⊢
  simpa [tokens, tokensFrom, solid, scanned, last] using skipped

def value : Except ReadFault Json :=
  if literal.plain then
    match integerOf literal.negative (values literal.whole) with
    | .error count => .error (.longInteger count)
    | .ok n => .ok (.integer n)
  else .ok (.real literal.numeral.toFloat)

theorem read_symbols [Json.Nesting] : Json.read ⟨literal.symbols⟩ = literal.value := by
  obtain ⟨first, rest, symbols, -, unmarked⟩ := literal.starts
  have tokens := literal.tokens_symbols
  rw [symbols] at tokens ⊢
  have values : readTokens (first :: rest) =
      [Located.mk literal.token 0].foldlM step (.forValue []) >>=
        finish (first :: rest).length := by
    rw [← tokens]
    unfold readTokens
    split
    -- No literal begins with a byte order mark.
    · next same => exact absurd (List.cons.inj same).1 unmarked
    · rfl
  simp only [read, values, token_eq, value]
  split
  · split <;> rfl
  · rfl

theorem isBlank_symbols : ∀ symbol ∈ literal.symbols, symbol.isBlank = false := by
  have fraction : ∀ symbol ∈ fractionSymbols literal.fraction, symbol.isBlank = false := by
    cases literal.fraction with
    | nil => simp [fractionSymbols]
    | cons d digits => exact List.forall_mem_cons.mpr ⟨by decide, isBlank_digitSymbols _⟩
  have unsigned : ∀ symbol ∈ literal.unsigned, symbol.isBlank = false :=
    List.forall_mem_append.mpr ⟨isBlank_digitSymbols _,
      List.forall_mem_append.mpr ⟨fraction, isBlank_powerSymbols _⟩⟩
  unfold symbols
  split
  · exact List.forall_mem_cons.mpr ⟨by decide, unsigned⟩
  · exact unsigned

theorem symbols_ne_nil : literal.symbols ≠ [] := by
  obtain ⟨first, rest, symbols, -⟩ := literal.starts
  simp [symbols]

theorem splitSign_symbols : splitSign literal.symbols = (literal.negative, literal.unsigned) := by
  obtain ⟨d, rest, unsigned⟩ := literal.exists_symbols
  cases sign : literal.negative with
  | true => simp [symbols, sign, splitSign]
  | false => simp [symbols, sign, unsigned, splitSign_of_digit (isDigit_of_digit d)]

theorem spanDigits_unsigned :
    spanDigits literal.unsigned = (values literal.whole, literal.tail) :=
  spanDigits_digits _ _ fun _ first => (literal.head?_tail first).2

theorem read?_symbols : Numeral.read? literal.symbols = some literal.numeral := by
  have exponent := readExponent?_symbols literal.power
  simp only [Numeral.read?, splitSign_symbols, spanDigits_unsigned, tail]
  cases fraction : literal.fraction with
  | nil =>
    -- Where no point stands, none is read.
    split
    next rest after =>
      have first : Symbol.char '.' ∈ (Power.symbols literal.power).head? := by
        simpa [fractionSymbols] using congrArg List.head? after
      exact absurd rfl (head?_symbols _ first).2.2
    next after same =>
      simp [numeral, literal.written, fraction, fractionSymbols, exponent, values]
  | cons d digits =>
    have spanned := spanDigits_digits (d :: digits) (Power.symbols literal.power)
      fun symbol first => (head?_symbols _ first).2.1
    simp [numeral, fraction, fractionSymbols, spanned, exponent, literal.written]

theorem tail_eq_nil_iff : literal.tail = [] ↔ literal.plain = true := by
  cases fraction : literal.fraction <;> cases power : literal.power <;>
    simp [tail, plain, fraction, power, fractionSymbols, Power.symbols]

theorem readInteger?_symbols : readInteger? literal.symbols =
    if literal.plain then some (literal.negative, values literal.whole) else none := by
  obtain ⟨d, digits, -, -, value⟩ := exists_first literal.written
  simp only [readInteger?, splitSign_symbols, spanDigits_unsigned, value]
  cases after : literal.tail with
  | nil => simp [literal.tail_eq_nil_iff.mp after]
  | cons symbol rest =>
    have pointed : ¬literal.plain = true := fun plain => by
      rw [literal.tail_eq_nil_iff.mpr plain] at after
      cases after
    simp [pointed]

end Literal

end DrawingPlan.Json
