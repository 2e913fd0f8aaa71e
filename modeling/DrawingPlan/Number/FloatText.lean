import DrawingPlan.Number.Decimal
import DrawingPlan.Text.Blank

set_option autoImplicit false

namespace DrawingPlan.Number

/-- The separators among the blanks do not count as white space around a number. -/
def isPadding (symbol : Symbol) : Bool :=
  symbol.isBlank && !(0x1C ≤ symbol.code && symbol.code ≤ 0x1F)

def dropUnderscores? (afterDigit : Bool) : List Symbol → Option (List Symbol)
  | [] => some []
  | .char '_' :: rest =>
    match rest with
    | next :: _ => if afterDigit && next.isDigit then dropUnderscores? false rest else none
    | [] => none
  | symbol :: rest => (dropUnderscores? symbol.isDigit rest).map (symbol :: ·)

def namedFloat? (word : Text) : Option Float :=
  if word = "inf" || word = "infinity" then some infinity
  else if word = "nan" then some notANumber
  else none

def readFloat? (text : Text) : Option Float := do
  let symbols ← dropUnderscores? false (Text.trimOf isPadding text.symbols)
  match Numeral.read? symbols with
  | some numeral => return numeral.toFloat
  | none =>
    let (negative, unsigned) := splitSign symbols
    let x ← namedFloat? ⟨unsigned.flatMap (Symbol.flatMapChar fun c => [c.toLower])⟩
    return if negative then -x else x

end DrawingPlan.Number
