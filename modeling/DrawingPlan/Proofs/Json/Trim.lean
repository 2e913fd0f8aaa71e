import DrawingPlan.Json.Reader
import DrawingPlan.Proofs.Except
import DrawingPlan.Proofs.Text.Blank

set_option autoImplicit false

namespace DrawingPlan

theorem Symbol.ne_of_isBlank {symbol other : Symbol} (blank : symbol.isBlank = true)
    (solid : other.isBlank = false) : symbol ≠ other := by
  rintro rfl
  rw [solid] at blank
  cases blank

theorem Symbol.not_isDigit_of_isBlank {symbol : Symbol} (blank : symbol.isBlank = true) :
    symbol.satisfies Char.isDigit = false := by
  cases symbol with
  | half place => rfl
  | char c =>
    rw [Bool.eq_false_iff]
    intro digit
    have bounds : 48 ≤ c.toNat ∧ c.toNat ≤ 57 := by
      simpa [satisfies, Char.isDigit, UInt32.le_iff_toNat_le] using digit
    have outside := code_of_isBlank blank
    simp only [code] at outside
    omega

namespace Json

open Number

section Scanning

variable {blanks : List Symbol} (blank : ∀ symbol ∈ blanks, symbol.isBlank = true)

include blank

theorem spanAscii_append (symbols : List Symbol) :
    spanAscii (symbols ++ blanks) = ((spanAscii symbols).1, (spanAscii symbols).2 ++ blanks) := by
  induction symbols with
  | nil =>
    cases blanks with
    | nil => rfl
    | cons symbol rest =>
      simp [spanAscii, Symbol.not_isDigit_of_isBlank (blank symbol List.mem_cons_self)]
  | cons symbol rest ih =>
    cases digit : symbol.satisfies Char.isDigit <;> simp [spanAscii, digit, ih]

theorem spanWhole_append (symbols : List Symbol) :
    spanWhole (symbols ++ blanks) = ((spanWhole symbols).1, (spanWhole symbols).2 ++ blanks) := by
  have spanned := spanAscii_append blank symbols
  cases symbols with
  | nil =>
    cases blanks with
    | nil => rfl
    | cons symbol rest =>
      have other := Symbol.ne_of_isBlank (blank symbol List.mem_cons_self)
        (show (Symbol.char '0').isBlank = false by decide)
      simpa [spanWhole, other] using spanned
  | cons symbol rest =>
    by_cases zero : symbol = .char '0'
    · simp [spanWhole, zero]
    · simpa [spanWhole, zero] using spanned

theorem spanFraction_append (symbols : List Symbol) :
    spanFraction (symbols ++ blanks) =
      ((spanFraction symbols).1, (spanFraction symbols).2 ++ blanks) := by
  cases symbols with
  | nil =>
    cases blanks with
    | nil => rfl
    | cons symbol rest =>
      have other := Symbol.ne_of_isBlank (blank symbol List.mem_cons_self)
        (show (Symbol.char '.').isBlank = false by decide)
      simp [spanFraction, other]
  | cons symbol rest =>
    by_cases point : symbol = .char '.'
    · have spanned := spanAscii_append blank rest
      rcases digits : spanAscii rest with ⟨found, after⟩
      cases found <;> simp [spanFraction, point, spanned, digits]
    · simp [spanFraction, point]

theorem splitSign_append (symbols : List Symbol) :
    splitSign (symbols ++ blanks) = ((splitSign symbols).1, (splitSign symbols).2 ++ blanks) ∧
      signLength (symbols ++ blanks) = signLength symbols := by
  cases symbols with
  | nil =>
    cases blanks with
    | nil => exact ⟨rfl, rfl⟩
    | cons symbol rest =>
      have minus := Symbol.ne_of_isBlank (blank symbol List.mem_cons_self)
        (show (Symbol.char '-').isBlank = false by decide)
      have plus := Symbol.ne_of_isBlank (blank symbol List.mem_cons_self)
        (show (Symbol.char '+').isBlank = false by decide)
      simp [splitSign, signLength, minus, plus]
  | cons symbol rest =>
    by_cases minus : symbol = .char '-'
    · simp [splitSign, signLength, minus]
    · by_cases plus : symbol = .char '+'
      · simp [splitSign, signLength, plus]
      · simp [splitSign, signLength, minus, plus]

theorem exponent?_append (symbols : List Symbol) :
    exponent? (symbols ++ blanks) = exponent? symbols := by
  cases symbols with
  | nil =>
    cases blanks with
    | nil => rfl
    | cons symbol rest =>
      have lower := Symbol.ne_of_isBlank (blank symbol List.mem_cons_self)
        (show (Symbol.char 'e').isBlank = false by decide)
      have upper := Symbol.ne_of_isBlank (blank symbol List.mem_cons_self)
        (show (Symbol.char 'E').isBlank = false by decide)
      simp [exponent?, isExponentMark, lower, upper]
  | cons symbol rest =>
    obtain ⟨signed, length⟩ := splitSign_append blank rest
    simp [exponent?, signed, length, spanAscii_append blank]

theorem scanNumber_append (negative : Bool) (symbols : List Symbol) :
    scanNumber negative (symbols ++ blanks) = scanNumber negative symbols := by
  rcases whole : spanWhole symbols with ⟨digits, after⟩
  cases digits <;>
    simp [scanNumber, spanWhole_append blank, whole, spanFraction_append blank,
      exponent?_append blank]

theorem scanSigned_append (symbol : Symbol) (rest : List Symbol) :
    scanSigned (symbol :: (rest ++ blanks)) = scanSigned (symbol :: rest) := by
  by_cases minus : symbol = .char '-'
  · simp [scanSigned, minus, scanNumber_append blank]
  · have number := scanNumber_append blank false (symbol :: rest)
    simpa [scanSigned, minus] using number

theorem isPrefixOf_append {word : List Symbol} (solid : ∀ symbol ∈ word, symbol.isBlank = false)
    (symbols : List Symbol) : word.isPrefixOf (symbols ++ blanks) = word.isPrefixOf symbols := by
  induction symbols generalizing word with
  | nil =>
    cases word with
    | nil => rfl
    | cons first others =>
      cases blanks with
      | nil => rfl
      | cons symbol rest =>
        have other := Symbol.ne_of_isBlank (blank symbol List.mem_cons_self)
          (solid first List.mem_cons_self)
        simp [List.isPrefixOf, other.symm]
  | cons symbol rest ih =>
    cases word with
    | nil => rfl
    | cons first others =>
      simp [List.isPrefixOf, ih fun symbol member => solid symbol (List.mem_cons_of_mem _ member)]

theorem scanWord_append (symbols : List Symbol) :
    scanWord (symbols ++ blanks) = scanWord symbols := by
  have solid : ∀ entry ∈ words, ∀ symbol ∈ entry.1.symbols, symbol.isBlank = false := by
    have known : (words.map (·.1)).all (fun word => word.symbols.all (!·.isBlank)) = true := by
      decide
    simpa using known
  unfold scanWord
  generalize words = entries at solid ⊢
  induction entries with
  | nil => rfl
  | cons entry others ih =>
    obtain ⟨own, later⟩ := List.forall_mem_cons.mp solid
    simp only [List.findSome?_cons, isPrefixOf_append blank own, ih later]

end Scanning

theorem Scanned.cons_ok {piece : Piece} {scanned : Scanned} {pieces : List Piece} {size : Nat}
    (read : scanned.cons piece = .ok (pieces, size)) :
    ∃ later, scanned = .ok (later, size) ∧ pieces = piece :: later := by
  cases scanned with
  | error fault => cases read
  | ok found =>
    cases read
    exact ⟨_, rfl, rfl⟩

theorem scanString_ok {offset size : Nat} {symbols : List Symbol} {pieces : List Piece}
    (scanned : scanString offset symbols = .ok (pieces, size)) :
    ∃ body rest, symbols = body ++ .char '"' :: rest ∧
      ∀ other, scanString offset (body ++ .char '"' :: other) = .ok (pieces, size) := by
  fun_induction scanString offset symbols generalizing pieces size with
  | case1 => cases scanned
  | case2 offset rest => exact ⟨[], rest, rfl, fun other => by simpa [scanString] using scanned⟩
  | case3 => cases scanned
  | case4 => cases scanned
  | case5 offset a b c d e rest code hex ih =>
    obtain ⟨later, read, rfl⟩ := Scanned.cons_ok scanned
    obtain ⟨body, after, same, ends⟩ := ih read
    refine ⟨.char '\\' :: .char 'u' :: a :: b :: c :: d :: body, after, by simp [same],
      fun other => ?_⟩
    -- An escape by number is read only before a further symbol, here at least the closing mark.
    obtain ⟨next, tail, split⟩ : ∃ next tail, body ++ .char '"' :: other = next :: tail := by
      cases body <;> simp
    have later := ends other
    simp only [List.cons_append, split] at later ⊢
    simp [scanString, hex, later, Scanned.cons]
  | case6 => cases scanned
  | case7 => cases scanned
  | case8 offset mark rest long short c known ih =>
    obtain ⟨later, read, rfl⟩ := Scanned.cons_ok scanned
    obtain ⟨body, after, same, ends⟩ := ih read
    refine ⟨.char '\\' :: mark :: body, after, by simp [same], fun other => ?_⟩
    rw [List.cons_append, List.cons_append, scanString]
    · simp [known, ends other, Scanned.cons]
    · simpa using fun _ _ _ _ _ _ same => (short same).elim
    · exact short
  | case9 => cases scanned
  | case10 offset symbol rest closing last unit unfinished escape printable ih =>
    obtain ⟨later, read, rfl⟩ := Scanned.cons_ok scanned
    obtain ⟨body, after, rfl, ends⟩ := ih read
    have plain : symbol ≠ .char '\\' := by
      rintro rfl
      cases body with
      | nil => exact escape _ _ rfl rfl
      | cons mark others => exact escape _ _ rfl rfl
    refine ⟨symbol :: body, after, rfl, fun other => ?_⟩
    simp [scanString, plain, printable, ends other, Scanned.cons]

def punctuation : List Symbol :=
  [.char '[', .char ']', .char '\x7b', .char '\x7d', .char ',', .char ':']

def starters : List Symbol :=
  .char '"' :: punctuation ++
    [.char '-', .char 'n', .char 't', .char 'f', .char 'N', .char 'I']

theorem scanToken_other {symbol : Symbol} (quote : symbol ≠ .char '"')
    (mark : symbol ∉ punctuation) (rest : List Symbol) :
    scanToken (symbol :: rest) =
      ((scanWord (symbol :: rest)).or (scanSigned (symbol :: rest))).getD (.junk, 1) := by
  simp only [punctuation, List.mem_cons, List.not_mem_nil, or_false, not_or] at mark
  unfold scanToken
  split <;> simp_all

theorem scanToken_junk {symbol : Symbol} (strange : symbol ∉ starters)
    (digit : symbol.satisfies Char.isDigit = false) (rest : List Symbol) :
    scanToken (symbol :: rest) = (.junk, 1) := by
  have zero : symbol ≠ .char '0' := by
    rintro rfl
    cases digit
  simp only [starters, List.cons_append, List.mem_cons, List.mem_append, not_or,
    List.not_mem_nil, or_false] at strange
  obtain ⟨quote, mark, minus, n, t, f, upperN, upperI⟩ := strange
  have word : scanWord (symbol :: rest) = none := by
    simp [scanWord, words, Text.ofString, Ne.symm n, Ne.symm t, Ne.symm f, Ne.symm upperN,
      Ne.symm upperI, Ne.symm minus]
  have number : scanSigned (symbol :: rest) = none := by
    simp [scanSigned, minus, scanNumber, spanWhole, zero, spanAscii, digit]
  rw [scanToken_other quote mark, word, number]
  rfl

section Blanks

variable {blanks : List Symbol} (blank : ∀ symbol ∈ blanks, symbol.isBlank = true)

include blank

theorem scanString_append {offset size : Nat} {symbols : List Symbol} {pieces : List Piece}
    (scanned : scanString offset (symbols ++ blanks) = .ok (pieces, size)) :
    scanString offset symbols = .ok (pieces, size) := by
  have unclosed : .char '"' ∉ blanks := fun member =>
    Symbol.ne_of_isBlank (blank _ member) (show (Symbol.char '"').isBlank = false by decide) rfl
  obtain ⟨body, rest, same, ends⟩ := scanString_ok scanned
  rcases List.append_eq_append_iff.mp same with ⟨front, rfl, after⟩ | ⟨tail, rfl, after⟩
  · exact (unclosed (by simp [after])).elim
  · cases tail with
    | nil =>
      rw [List.nil_append] at after
      exact (unclosed (after ▸ List.mem_cons_self)).elim
    | cons symbol others =>
      obtain ⟨rfl, -⟩ := List.cons.inj after
      exact ends others

theorem scanToken_append (symbol : Symbol) (rest : List Symbol)
    (clean : (scanToken (symbol :: (rest ++ blanks))).1.last = false) :
    scanToken (symbol :: (rest ++ blanks)) = scanToken (symbol :: rest) := by
  by_cases quote : symbol = .char '"'
  · subst quote
    simp only [scanToken] at clean ⊢
    cases scanned : scanString 1 (rest ++ blanks) with
    | error fault =>
      rw [scanned] at clean
      cases clean
    | ok found => rw [scanString_append blank scanned]
  by_cases mark : symbol ∈ punctuation
  · simp only [punctuation, List.mem_cons, List.not_mem_nil, or_false] at mark
    rcases mark with rfl | rfl | rfl | rfl | rfl | rfl <;> rfl
  · have word := scanWord_append blank (symbol :: rest)
    rw [List.cons_append] at word
    rw [scanToken_other quote mark, scanToken_other quote mark, word, scanSigned_append blank]

end Blanks

theorem scanToken_blank {symbol : Symbol} (blank : symbol.isBlank = true) (rest : List Symbol) :
    scanToken (symbol :: rest) = (.junk, 1) := by
  have solid : ∀ other ∈ starters, other.isBlank = false := by decide
  exact scanToken_junk (fun member => Symbol.ne_of_isBlank blank (solid symbol member) rfl)
    (Symbol.not_isDigit_of_isBlank blank) rest

def Clean (found : List Located) : Prop :=
  ∀ located ∈ found, located.token.last = false

theorem tokensFrom_blank {blanks : List Symbol}
    (blank : ∀ symbol ∈ blanks, symbol.isBlank = true) {skip position : Nat}
    (clean : Clean (tokensFrom skip position blanks)) : tokensFrom skip position blanks = [] := by
  induction blanks generalizing skip position with
  | nil => rfl
  | cons symbol rest ih =>
    obtain ⟨own, later⟩ := List.forall_mem_cons.mp blank
    cases skip with
    | succ skip => exact ih later clean
    | zero =>
      cases space : isSpace symbol with
      | true =>
        simp only [tokensFrom, space, if_true] at clean ⊢
        exact ih later clean
      | false =>
        simp [tokensFrom, space, scanToken_blank own, Clean, Token.last] at clean

theorem tokensFrom_append {blanks : List Symbol}
    (blank : ∀ symbol ∈ blanks, symbol.isBlank = true) {symbols : List Symbol} {skip position : Nat}
    (clean : Clean (tokensFrom skip position (symbols ++ blanks))) :
    tokensFrom skip position (symbols ++ blanks) = tokensFrom skip position symbols := by
  induction symbols generalizing skip position with
  | nil => simpa [tokensFrom] using tokensFrom_blank blank clean
  | cons symbol rest ih =>
    simp only [List.cons_append] at clean ⊢
    cases skip with
    | succ skip => exact ih clean
    | zero =>
      cases space : isSpace symbol with
      | true =>
        simp only [tokensFrom, space, if_true] at clean ⊢
        exact ih clean
      | false =>
        have own : (scanToken (symbol :: (rest ++ blanks))).1.last = false := by
          simp only [tokensFrom, space, Bool.false_eq_true, if_false] at clean
          exact clean _ List.mem_cons_self
        have same := scanToken_append blank symbol rest own
        rw [same] at own
        simp only [tokensFrom, space, same, own, Bool.false_eq_true, if_false] at clean ⊢
        rw [ih (List.forall_mem_cons.mp clean).2]

theorem tokensFrom_lead {lead : List Symbol} (blank : ∀ symbol ∈ lead, symbol.isBlank = true)
    {position : Nat} {rest : List Symbol} (clean : Clean (tokensFrom 0 position (lead ++ rest))) :
    tokensFrom 0 position (lead ++ rest) = tokensFrom 0 (position + lead.length) rest := by
  induction lead generalizing position with
  | nil => rfl
  | cons symbol others ih =>
    obtain ⟨own, later⟩ := List.forall_mem_cons.mp blank
    simp only [List.cons_append] at clean ⊢
    cases space : isSpace symbol with
    | true =>
      simp only [tokensFrom, space, if_true] at clean ⊢
      rw [ih later clean, List.length_cons]
      congr 1
      omega
    | false => simp [tokensFrom, space, scanToken_blank own, Clean, Token.last] at clean

theorem map_token_tokensFrom (skip position other : Nat) (symbols : List Symbol) :
    (tokensFrom skip position symbols).map Located.token =
      (tokensFrom skip other symbols).map Located.token := by
  induction symbols generalizing skip position other with
  | nil => rfl
  | cons symbol rest ih =>
    cases skip with
    | succ skip => exact ih skip _ _
    | zero =>
      cases space : isSpace symbol with
      | true => simpa [tokensFrom, space] using ih 0 _ _
      | false =>
        cases last : (scanToken (symbol :: rest)).1.last with
        | true => simp [tokensFrom, space, last]
        | false => simpa [tokensFrom, space, last] using ih _ _ _

theorem takeValue_ok [Json.Nesting] (stack : List Frame) {next : Waiting} {token : Token}
    (position : Nat) (taken : takeValue stack ⟨token, position⟩ = .ok next) :
    token.last = false ∧ ∀ other, takeValue stack ⟨token, other⟩ = .ok next := by
  cases token with
  | value | openList | openObject => exact ⟨rfl, fun _ => taken⟩
  | _ => cases taken

theorem step_ok [Json.Nesting] {waiting next : Waiting} {token : Token} {position : Nat}
    (stepped : step waiting ⟨token, position⟩ = .ok next) :
    token.last = false ∧ ∀ other, step waiting ⟨token, other⟩ = .ok next := by
  cases waiting with
  | forValue stack => exact takeValue_ok stack position stepped
  | forItem stack =>
    cases token with
    | closeList => exact ⟨rfl, fun _ => stepped⟩
    | _ => exact takeValue_ok (.list [] :: stack) position stepped
  | forKey stack fields opened =>
    -- A key is a string, and only an object that was just opened may be closed instead.
    cases token with
    | value json =>
      cases fields <;> cases opened <;> cases json with
      | text key => exact ⟨rfl, fun _ => stepped⟩
      | _ => cases stepped
    | closeObject =>
      cases fields with
      | cons => cases stepped
      | nil =>
        cases opened with
        | true => exact ⟨rfl, fun _ => stepped⟩
        | false => cases stepped
    | _ => cases fields <;> cases opened <;> cases stepped
  | forColon stack fields key =>
    cases token with
    | colon => exact ⟨rfl, fun _ => stepped⟩
    | _ => cases stepped
  | forNext stack frame =>
    cases frame with
    | list items =>
      cases token with
      | comma | closeList => exact ⟨rfl, fun _ => stepped⟩
      | _ => cases stepped
    | object fields key =>
      cases token with
      | comma | closeObject => exact ⟨rfl, fun _ => stepped⟩
      | _ => cases stepped
  | forEnd json => cases stepped

theorem clean_of_foldlM [Json.Nesting] {found : List Located} {waiting reached : Waiting}
    (read : found.foldlM step waiting = .ok reached) : Clean found := by
  induction found generalizing waiting with
  | nil => simp [Clean]
  | cons located rest ih =>
    obtain ⟨next, stepped, later⟩ := bind_ok read
    exact List.forall_mem_cons.mpr ⟨(step_ok stepped).1, ih later⟩

theorem foldlM_of_tokens [Json.Nesting] {found others : List Located}
    (same : found.map Located.token = others.map Located.token) {waiting reached : Waiting}
    (read : found.foldlM step waiting = .ok reached) :
    others.foldlM step waiting = .ok reached := by
  induction found generalizing others waiting with
  | nil =>
    obtain rfl := List.map_eq_nil_iff.mp same.symm
    exact read
  | cons located rest ih =>
    obtain ⟨other, remaining, rfl, token, later⟩ := List.map_eq_cons_iff.mp same.symm
    obtain ⟨next, stepped, onward⟩ := bind_ok read
    have again : step waiting other = .ok next := by
      obtain ⟨kind, place⟩ := other
      obtain rfl : kind = located.token := token
      exact (step_ok stepped).2 place
    rw [List.foldlM_cons, again]
    exact ih later.symm onward

theorem finish_ok_iff {size : Nat} {waiting : Waiting} {root : Json} :
    finish size waiting = .ok root ↔ waiting = .forEnd root := by
  cases waiting <;> simp [finish]

theorem readTokens_ok_iff [Json.Nesting] {symbols : List Symbol} {root : Json} :
    readTokens symbols = .ok root ↔ symbols.head? ≠ some (.char '\uFEFF') ∧
      (tokens symbols).foldlM step (.forValue []) = .ok (.forEnd root) := by
  unfold readTokens
  split
  · simp
  · next unmarked =>
    have start : symbols.head? ≠ some (.char '\uFEFF') := by
      intro first
      obtain ⟨rest, rfl⟩ := List.head?_eq_some_iff.mp first
      exact unmarked rest rfl
    refine ⟨fun read => ?_, fun ⟨_, read⟩ => ?_⟩
    · obtain ⟨waiting, reached, ended⟩ := bind_ok read
      obtain rfl := finish_ok_iff.mp ended
      exact ⟨start, reached⟩
    · rw [read]
      rfl

theorem read_ok_iff [Json.Nesting] {text : Text} {root : Json} :
    read text = .ok root ↔ readTokens text.symbols = .ok root := by
  cases found : readTokens text.symbols <;> simp [read, found, Except.mapError]

theorem clean_of_read [Json.Nesting] {text : Text} {root : Json} (readable : read text = .ok root) :
    Clean (tokens text.symbols) :=
  clean_of_foldlM (readTokens_ok_iff.mp (read_ok_iff.mp readable)).2

theorem head?_of_clean {symbol : Symbol} (strange : symbol ∉ starters)
    (digit : symbol.satisfies Char.isDigit = false) (solid : isSpace symbol = false)
    {position : Nat} {symbols : List Symbol} (clean : Clean (tokensFrom 0 position symbols)) :
    symbols.head? ≠ some symbol := by
  intro first
  obtain ⟨rest, rfl⟩ := List.head?_eq_some_iff.mp first
  simp [tokensFrom, solid, scanToken_junk strange digit, Clean, Token.last] at clean

theorem read_trim [Json.Nesting] {text : Text} {root : Json} (readable : read text = .ok root) :
    read text.trim = .ok root := by
  obtain ⟨lead, trail, leading, trailing, same⟩ := Text.trimSymbols_split text.symbols
  have clean := clean_of_read readable
  rw [tokens, same] at clean
  have after := tokensFrom_lead leading clean
  rw [after] at clean
  have before := tokensFrom_append trailing clean
  rw [before] at clean
  refine read_ok_iff.mpr (readTokens_ok_iff.mpr ⟨?_, ?_⟩)
  · exact head?_of_clean (by decide) (by decide) (by decide) clean
  · refine foldlM_of_tokens ?_ (readTokens_ok_iff.mp (read_ok_iff.mp readable)).2
    rw [tokens, same, after, before]
    exact map_token_tokensFrom _ _ _ _

end Json

end DrawingPlan
