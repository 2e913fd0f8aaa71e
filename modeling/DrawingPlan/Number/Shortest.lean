import DrawingPlan.Number.Nearest

set_option autoImplicit false

namespace DrawingPlan.Number

structure Scaled where
  digits : Nat
  exponent : Int
deriving DecidableEq, Repr

def decimalLength (n : Nat) : Nat :=
  (Nat.toDigits 10 n).length

def inUnits (n d : Nat) (exponent : Int) : Nat × Nat :=
  (n * tenTo (-exponent).toNat, d * tenTo exponent.toNat)

def decadeOf (n d : Nat) : Int :=
  let guess : Int := (decimalLength n : Int) - decimalLength d
  -- The lengths alone leave two candidates, this one and the one below.
  let (a, b) := inUnits n d guess
  if b ≤ a then guess else guess - 1

def roundedTo (places : Nat) (n d : Nat) : Scaled :=
  let unit := decadeOf n d - (places - 1 : Nat)
  let (a, b) := inUnits n d unit
  ⟨roundDiv a b, unit⟩

/-- The exact values that round to one float: the mantissa's neighbourhood in quarter units. -/
structure Neighbourhood where
  low : Nat
  value : Nat
  high : Nat
  exponent : Int
  closed : Bool

/-- Below a power of two the floats are twice as dense, so that the lower half unit is shorter. -/
def neighbourhood (mantissa : Nat) (exponent : Int) : Neighbourhood where
  low := if mantissa = twoTo 52 && exponent > -1074 then 4 * mantissa - 1 else 4 * mantissa - 2
  value := 4 * mantissa
  high := 4 * mantissa + 2
  exponent := exponent - 2
  closed := mantissa % 2 == 0

def Neighbourhood.holds (near : Neighbourhood) (unit : Int) (candidate : Nat) : Bool :=
  let c := candidate * tenTo unit.toNat * twoTo (-near.exponent).toNat
  let factor := twoTo near.exponent.toNat * tenTo (-unit).toNat
  if near.closed then near.low * factor ≤ c && c ≤ near.high * factor
  else near.low * factor < c && c < near.high * factor

def Neighbourhood.onGrid? (near : Neighbourhood) (places : Nat) : Option Scaled :=
  let (n, d) := scaledRatio near.value 1 near.exponent
  let unit := decadeOf n d - (places - 1 : Nat)
  let (a, b) := inUnits n d unit
  let below := a / b
  let nearer := roundDiv a b
  -- A lopsided neighbourhood may hold the farther of the two and not the nearer.
  if near.holds unit nearer then some ⟨nearer, unit⟩
  else if near.holds unit below then some ⟨below, unit⟩
  else if near.holds unit (below + 1) then some ⟨below + 1, unit⟩
  else none

def mostPlaces : Nat := 17

/-- The decimal number with the fewest places that rounds to a positive float. -/
def shortest (mantissa : Nat) (exponent : Int) : Scaled :=
  let near := neighbourhood mantissa exponent
  match (List.range mostPlaces).findSome? fun i => near.onGrid? (i + 1) with
  | some best => best
  | none =>
    let (n, d) := scaledRatio mantissa 1 exponent
    roundedTo mostPlaces n d

end DrawingPlan.Number
