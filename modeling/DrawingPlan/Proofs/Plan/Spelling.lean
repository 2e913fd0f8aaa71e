import DrawingPlan.Proofs.Json.Literal
import DrawingPlan.Proofs.Number.Size
import DrawingPlan.Proofs.Plan.Locality

set_option autoImplicit false

namespace DrawingPlan

open Number

theorem Json.Literal.toDecimal_of_plain {literal : Json.Literal} (plain : literal.plain = true) :
    literal.numeral.toDecimal = ⟨literal.negative, ofDigits (values literal.whole), 0⟩ := by
  obtain ⟨fraction, power⟩ : literal.fraction = [] ∧ literal.power = none := by
    simpa [Json.Literal.plain] using plain
  simp [Numeral.toDecimal, numeral, fraction, power, values]

namespace Field

/-- The same number, where no zero is told apart from its opposite, or none in both. -/
def SameNumber : Option Float → Option Float → Prop :=
  Option.Rel fun x y => (x == y) = true

theorem SameNumber.refl (x : Float) : SameNumber (finite? x) (finite? x) := by
  unfold finite?
  split
  · next finite =>
    have number := ((isFinite_iff x).mp finite).not_nan
    exact .some (by simpa using number)
  · exact .none

variable (literal : Json.Literal)

theorem number?_text {lead trail : List Symbol} (leading : ∀ symbol ∈ lead, symbol.isBlank = true)
    (trailing : ∀ symbol ∈ trail, symbol.isBlank = true) :
    number? (.text ⟨lead ++ (literal.symbols ++ trail)⟩) = finite? literal.numeral.toFloat := by
  have trimmed := Text.trimSymbols_between leading trailing literal.symbols_ne_nil
    literal.isBlank_symbols
  simp [number?, Text.trim, trimmed, literal.read?_symbols]

theorem sameNumber_integer (negative : Bool) (size : Nat) :
    SameNumber (finite? (Decimal.ofInt (if negative then -(size : Int) else size)).toFloat)
      (finite? (Decimal.toFloat ⟨negative, size, 0⟩)) := by
  by_cases zero : size = 0
  -- An integer zero has no sign, and the zero of the string has the one that is written.
  · subst zero
    cases negative with
    | false => exact .refl _
    | true => exact .some (by decide +kernel)
  · have same : Decimal.ofInt (if negative then -(size : Int) else size) = ⟨negative, size, 0⟩ := by
      cases negative <;> simp [Decimal.ofInt]
      omega
    rw [same]
    exact .refl _

theorem number?_of_literal [Json.Nesting]
    (short : literal.plain = true → literal.whole.length ≤ digitLimit)
    {lead trail : List Symbol} (leading : ∀ symbol ∈ lead, symbol.isBlank = true)
    (trailing : ∀ symbol ∈ trail, symbol.isBlank = true) :
    ∃ json, Json.read ⟨literal.symbols⟩ = .ok json ∧
      SameNumber (number? json) (number? (.text ⟨lead ++ (literal.symbols ++ trail)⟩)) := by
  rw [number?_text literal leading trailing, literal.read_symbols, Json.Literal.value]
  cases plain : literal.plain with
  | false => exact ⟨_, rfl, .refl _⟩
  | true =>
    rw [integerOf_of_short (by simpa using short plain)]
    refine ⟨_, rfl, ?_⟩
    rw [Numeral.toFloat, Json.Literal.toDecimal_of_plain plain]
    exact sameNumber_integer literal.negative (ofDigits (Json.values literal.whole))

theorem number?_of_literal_of_negative_zero :
    let literal : Json.Literal := ⟨true, [0], [], none, by decide, by decide⟩
    (literal.plain = true → literal.whole.length ≤ digitLimit) ∧
      ([Symbol.char '\t', .char '\u00a0'].all Symbol.isBlank = true) ∧
      ∃ json, Json.read "-0" = .ok json ∧
        SameNumber (number? json) (number? (.text "\t-0\u00a0")) := by
  intro literal
  have short : literal.plain = true → literal.whole.length ≤ digitLimit := fun _ => by decide
  exact ⟨short, by decide, number?_of_literal literal short
    (List.forall_mem_singleton.mpr (by decide)) (List.forall_mem_singleton.mpr (by decide))⟩

theorem integer?_text : integer? (.text ⟨literal.symbols⟩) =
    if literal.plain then
      match integerOf literal.negative (Json.values literal.whole) with
      | .error count => .error (.digits count)
      | .ok n => .ok (some n)
    else .ok none := by
  have trimmed : Text.trimSymbols literal.symbols = literal.symbols :=
    Text.trimSymbols_solid
      (fun symbol first => literal.isBlank_symbols symbol (List.mem_of_mem_head? first))
      fun symbol last => literal.isBlank_symbols symbol (List.mem_of_mem_getLast? last)
  simp only [integer?, Text.trim, trimmed, literal.readInteger?_symbols]
  cases literal.plain <;> rfl

theorem integer?_of_fraction {x : Float} (fraction : isIntegral x = false) :
    integer? (.real x) = .ok none := by
  simp [integer?, fraction]

theorem integer?_of_integral {x : Float} (integral : isIntegral x = true) :
    ∃ n, truncate? x = some n ∧ integer? (.real x) = .ok (some n) := by
  cases parts : Parts.ofFloat x with
  | nan | infinite negative => simp [isIntegral, parts] at integral
  | finite negative mantissa exponent =>
    simp [integer?, isFinite, truncate?, integral, parts]

end Field

namespace Json.Literal

variable (literal : Json.Literal)

def ReadsAlike [Json.Nesting] : Prop :=
  ∃ json color, Json.read ⟨literal.symbols⟩ = .ok json ∧
    Field.integer? json = .ok color ∧ Field.integer? (.text ⟨literal.symbols⟩) = .ok color

theorem readsAlike_iff [Json.Nesting] : literal.ReadsAlike ↔
    if literal.plain then literal.whole.length ≤ digitLimit
    else isIntegral literal.numeral.toFloat = false := by
  unfold ReadsAlike
  rw [literal.read_symbols, value, Field.integer?_text]
  cases plain : literal.plain with
  | true =>
    by_cases short : literal.whole.length ≤ digitLimit
    · simp [integerOf_of_short, short, Field.integer?]
    · simp [integerOf_of_long, Nat.not_le.mp short, short]
  | false =>
    cases integral : isIntegral literal.numeral.toFloat with
    | true =>
      obtain ⟨n, -, read⟩ := Field.integer?_of_integral integral
      simp [read]
    | false => simp [Field.integer?_of_fraction integral]

theorem integer?_of_read [Json.Nesting] {json : Json}
    (read : Json.read ⟨literal.symbols⟩ = .ok json) :
    ∃ color, Field.integer? json = .ok color := by
  rw [literal.read_symbols, value] at read
  split at read
  · split at read
    · cases read
    · cases read
      exact ⟨_, rfl⟩
  · cases read
    exact ⟨_, rfl⟩

theorem not_readsAlike [Json.Nesting] (differ : ¬literal.ReadsAlike) :
    if literal.plain then
      Json.read ⟨literal.symbols⟩ = .error (.longInteger literal.whole.length) ∧
        Field.integer? (.text ⟨literal.symbols⟩) = .error (.digits literal.whole.length)
    else ∃ n, Json.read ⟨literal.symbols⟩ = .ok (.real literal.numeral.toFloat) ∧
      Field.integer? (.real literal.numeral.toFloat) = .ok (some n) ∧
      Field.integer? (.text ⟨literal.symbols⟩) = .ok none := by
  rw [readsAlike_iff] at differ
  rw [literal.read_symbols, value, Field.integer?_text]
  cases plain : literal.plain with
  | true =>
    have long : digitLimit < literal.whole.length := by simpa [plain] using differ
    simp [integerOf_of_long, long]
  | false =>
    have integral : isIntegral literal.numeral.toFloat = true := by simpa [plain] using differ
    obtain ⟨n, -, read⟩ := Field.integer?_of_integral integral
    exact ⟨n, rfl, read, rfl⟩

end Json.Literal

theorem Action.decode_changeProperties {obj : Json} {written : Text}
    {filter : Option (Filter Float)} (named : obj.field "action" = .text written)
    (known : kindOf? written = some .changeProperties) (sound : Field.filter obj = .ok filter) :
    decode obj = (Field.integer? (obj.field "colorIndex")).map fun color =>
      .ok (.changeProperties {
        filter, color
        linetype := Field.text? obj "linetype"
        linetypeScale := Field.number? (obj.field "linetypeScale") }) := by
  rw [decode_eq_readAs named known, readAs, withFilter, sound]
  simp only [ChangeProperties.read?]
  cases Field.integer? (obj.field "colorIndex") <;> rfl

structure Json.SpelledColor [Json.Nesting] (literal : Json.Literal) (numbered spelled : Json) :
    Prop where
  kind : ∃ written, numbered.field "action" = .text written ∧
    Action.kindOf? written = some .changeProperties
  filter : numbered.field "filter" = .null ∨ ∃ fields, numbered.field "filter" = .object fields
  agree : numbered.AgreeBut "colorIndex" spelled
  number : Json.read ⟨literal.symbols⟩ = .ok (numbered.field "colorIndex")
  text : spelled.field "colorIndex" = .text ⟨literal.symbols⟩

theorem Json.SpelledColor.decode_iff [Json.Nesting] {literal : Json.Literal}
    {numbered spelled : Json}
    (spellings : Json.SpelledColor literal numbered spelled) :
    Action.decode numbered = Action.decode spelled ↔ literal.ReadsAlike := by
  obtain ⟨⟨written, named, known⟩, sound, agree, number, text⟩ := spellings
  obtain ⟨filter, found⟩ := Field.filter_ok_iff.mpr sound
  have again : Field.filter spelled = .ok filter :=
    (Field.filter_congr (agree "filter" (by decide))).symm.trans found
  have renamed : spelled.field "action" = .text written :=
    (agree "action" (by decide)).symm.trans named
  have linetype : Field.text? spelled "linetype" = Field.text? numbered "linetype" := by
    simp only [Field.text?, agree "linetype" (by decide)]
  -- A number that was read does not fail as a colour, so that all hangs on the string.
  obtain ⟨color, own⟩ := literal.integer?_of_read number
  rw [Action.decode_changeProperties named known found,
    Action.decode_changeProperties renamed known again, linetype,
    ← agree "linetypeScale" (by decide), own, text]
  constructor
  · intro same
    cases other : Field.integer? (.text ⟨literal.symbols⟩) with
    | error fault =>
      rw [other] at same
      cases same
    | ok found =>
      rw [other] at same
      cases same
      exact ⟨_, color, number, own, other⟩
  · rintro ⟨json, found, read, given, other⟩
    obtain rfl := Except.ok.inj (number.symm.trans read)
    obtain rfl := Except.ok.inj (own.symm.trans given)
    rw [other]

namespace Json.Literal

/--
Number and string give a colour alike exactly when the literal is an integer that is not too long,
or stands for a float that is not integral, which is no colour in either spelling.
-/
theorem colors_alike_iff [Json.Nesting] (literal : Json.Literal) :
    (literal.ReadsAlike ↔
      if literal.plain then literal.whole.length ≤ digitLimit
      else isIntegral literal.numeral.toFloat = false) ∧
    (literal.plain = true → literal.ReadsAlike → Field.integer? (.text ⟨literal.symbols⟩) =
      .ok (some (if literal.negative then -(ofDigits (values literal.whole) : Int)
        else ofDigits (values literal.whole)))) ∧
    (¬literal.ReadsAlike →
      if literal.plain then
        Json.read ⟨literal.symbols⟩ = .error (.longInteger literal.whole.length) ∧
          Field.integer? (.text ⟨literal.symbols⟩) = .error (.digits literal.whole.length)
      else ∃ n, Json.read ⟨literal.symbols⟩ = .ok (.real literal.numeral.toFloat) ∧
        Field.integer? (.real literal.numeral.toFloat) = .ok (some n) ∧
        Field.integer? (.text ⟨literal.symbols⟩) = .ok none) ∧
    ∀ numbered spelled, Json.SpelledColor literal numbered spelled →
      (Action.decode numbered = Action.decode spelled ↔ literal.ReadsAlike) := by
  refine ⟨literal.readsAlike_iff, fun plain alike => ?_, literal.not_readsAlike,
    fun _ _ => SpelledColor.decode_iff⟩
  have short : literal.whole.length ≤ digitLimit := by
    simpa [plain] using literal.readsAlike_iff.mp alike
  rw [Field.integer?_text, plain, integerOf_of_short (by simpa using short)]
  rfl

theorem colors_alike_iff_of_seven :
    let literal : Json.Literal := ⟨false, [7], [], none, by decide, by decide⟩
    let object (color : Json) : Json := .object [("action", .text "change_properties"),
      ("colorIndex", color), ("linetype", .text "CENTER")]
    literal.ReadsAlike ∧
      Json.SpelledColor literal (object (.integer 7)) (object (.text "7")) ∧
      Action.decode (object (.integer 7)) = Action.decode (object (.text "7")) := by
  intro literal object
  have agree : (object (.integer 7)).AgreeBut "colorIndex" (object (.text "7")) := by
    intro other different
    have missed : (other == ("colorIndex" : Text)) = false := beq_false_of_ne different
    simp only [object, Json.field, Json.field?, List.lookup_cons, missed]
  have spellings : Json.SpelledColor literal (object (.integer 7)) (object (.text "7")) :=
    ⟨⟨"change_properties", rfl, by decide +kernel⟩, .inl rfl, agree, rfl, rfl⟩
  obtain ⟨exactly, -, -, decodes⟩ := literal.colors_alike_iff
  have alike : literal.ReadsAlike := exactly.mpr (by decide)
  exact ⟨alike, spellings, (decodes _ _ spellings).mpr alike⟩

theorem point_costs_color :
    let literal : Json.Literal := ⟨false, [7], [0], none, by decide, by decide⟩
    (⟨literal.symbols⟩ : Text) = "7.0" ∧
      (∃ x, Json.read "7.0" = .ok (.real x) ∧ Field.integer? (.real x) = .ok (some 7)) ∧
      Field.integer? (.text "7.0") = .ok none ∧ ¬∀ literal : Json.Literal, literal.ReadsAlike := by
  intro literal
  have seven : Field.integer? (.real literal.numeral.toFloat) = .ok (some 7) := by decide +kernel
  have read : Json.read "7.0" = .ok (.real literal.numeral.toFloat) := literal.read_symbols
  refine ⟨rfl, ⟨_, read, seven⟩, by decide +kernel, fun claimed => ?_⟩
  have alike := literal.readsAlike_iff.mp (claimed literal)
  revert alike
  decide +kernel

end Json.Literal

end DrawingPlan
