import DrawingPlan.Number.Nearest
import DrawingPlan.Text.Digit

set_option autoImplicit false

namespace DrawingPlan.Number

structure Decimal where
  negative : Bool
  digits : Nat
  exponent : Int
deriving DecidableEq, Repr

def Decimal.ofInt (n : Int) : Decimal :=
  ⟨decide (n < 0), n.natAbs, 0⟩

/-- Every decimal number from `10 ^ 310` on is too large for a float. -/
def largestDecade : Int := 310

/-- Every decimal number below `10 ^ (-330)` is nearer to zero than to any float. -/
def smallestDecade : Int := -330

/-- The nearest float. A number far out of range is decided by its number of digits alone. -/
def Decimal.toFloat (number : Decimal) : Float :=
  let decade : Int := (Nat.toDigits 10 number.digits).length + number.exponent
  if number.digits = 0 then nearest number.negative 0 1
  else if largestDecade < decade then nearest number.negative (twoTo 1024) 1
  else if decade < smallestDecade then nearest number.negative 0 1
  else
    nearest number.negative (number.digits * tenTo number.exponent.toNat)
      (tenTo (-number.exponent).toNat)

def ofDigits (digits : List Nat) : Nat :=
  digits.foldl (fun n d => 10 * n + d) 0

structure Numeral where
  negative : Bool
  whole : List Nat
  fraction : List Nat
  exponent : Int
deriving DecidableEq, Repr

def Numeral.toDecimal (numeral : Numeral) : Decimal where
  negative := numeral.negative
  digits := ofDigits (numeral.whole ++ numeral.fraction)
  exponent := numeral.exponent - numeral.fraction.length

def Numeral.toFloat (numeral : Numeral) : Float :=
  numeral.toDecimal.toFloat

def splitSign : List Symbol → Bool × List Symbol
  | .char '-' :: rest => (true, rest)
  | .char '+' :: rest => (false, rest)
  | rest => (false, rest)

def signLength : List Symbol → Nat
  | .char '-' :: _ | .char '+' :: _ => 1
  | _ => 0

def spanDigits : List Symbol → List Nat × List Symbol
  | [] => ([], [])
  | symbol :: rest =>
    match symbol.digitValue? with
    | none => ([], symbol :: rest)
    | some d => let (digits, after) := spanDigits rest; (d :: digits, after)

def isExponentMark (symbol : Symbol) : Bool :=
  symbol = .char 'e' || symbol = .char 'E'

def readExponent? : List Symbol → Option Int
  | [] => some 0
  | mark :: rest =>
    if isExponentMark mark then
      let (negative, unsigned) := splitSign rest
      match spanDigits unsigned with
      | (d :: digits, []) =>
        let size : Int := ofDigits (d :: digits)
        some (if negative then -size else size)
      | _ => none
    else none

/--
A whole text as a number: a sign, digits with a point among them or at one end, a power of ten. The
point is always a full stop; digits of every script count.
-/
def Numeral.read? (symbols : List Symbol) : Option Numeral :=
  let (negative, unsigned) := splitSign symbols
  let (whole, afterWhole) := spanDigits unsigned
  let (fraction, afterFraction) :=
    match afterWhole with
    | .char '.' :: rest => spanDigits rest
    | rest => ([], rest)
  if whole.isEmpty && fraction.isEmpty then none
  else (readExponent? afterFraction).map fun exponent => ⟨negative, whole, fraction, exponent⟩

def readInteger? (symbols : List Symbol) : Option (Bool × List Nat) :=
  let (negative, unsigned) := splitSign symbols
  match spanDigits unsigned with
  | (d :: digits, []) => some (negative, d :: digits)
  | _ => none

def digitLimit : Nat := 4300

def integerOf (negative : Bool) (digits : List Nat) : Except Nat Int :=
  if digitLimit < digits.length then .error digits.length
  else
    let size : Int := ofDigits digits
    .ok (if negative then -size else size)

end DrawingPlan.Number
