import DrawingPlan.Number.Nearest

/-!
The length of a hypotenuse, without overflow on the way. A length in the normal range is the float
nearest to the exact one. Below it there are two rules: a length is rounded to 53 bits before it is
rounded to the coarser grid there, and sides far below are divided by the longer one first.
-/

set_option autoImplicit false

namespace DrawingPlan.Number

/-- The square root rounded down, one bit after the other, from bit `top`. -/
def sqrtFrom (n : Nat) : Nat → Nat → Nat
  | 0, root => if (root + 1) * (root + 1) ≤ n then root + 1 else root
  | top + 1, root =>
    let next := root + twoTo (top + 1)
    sqrtFrom n top (if next * next ≤ n then next else root)

def sqrtFloor (n : Nat) : Nat :=
  sqrtFrom n (n.log2 / 2) 0

/--
`√n * 2 ^ exponent` for positive `n`, rounded to 53 bits, as a mantissa and the exponent of its
unit. The root is taken with more bits than that; when it is not exact, a half more keeps it off
every point where rounding changes.
-/
def sqrtRounded (n : Nat) (exponent : Int) : Nat × Int :=
  let root := sqrtFloor (n * twoTo 128)
  let doubled := if root * root = n * twoTo 128 then 2 * root else 2 * root + 1
  let (a, b) := scaledRatio doubled 1 (exponent - 65)
  let unit := fullExponent a b
  let (c, d) := scaledRatio a b (-unit)
  (roundDiv c d, unit)

def exactHypot (m : Nat) (e : Int) (n : Nat) (f : Int) : Float :=
  let low := min e f
  let a := m * twoTo (e - low).toNat
  let b := n * twoTo (f - low).toNat
  let (mantissa, unit) := sqrtRounded (a * a + b * b) low
  -- This rounds again only where floats have fewer than 53 bits.
  let (c, d) := scaledRatio mantissa 1 unit
  nearest false c d

/--
The length for two sides of no sign, from their quotients by the longer one. The squares are added
to one; what each sum loses to rounding is kept apart and put back under the root.
-/
def quotientHypot (x y : Float) : Float :=
  let longer := if x < y then y else x
  let a := (x / longer) * (x / longer)
  let b := (y / longer) * (y / longer)
  let first := 1 + a
  let second := first + b
  let lost := ((1 - first) + a) + ((first - second) + b)
  longer * ((second - 1) + lost).sqrt

def isTiny (mantissa : Nat) (exponent : Int) : Bool :=
  exponent = -1074 && mantissa < twoTo 50

def hypot (x y : Float) : Float :=
  match Parts.ofFloat x, Parts.ofFloat y with
  | .infinite _, _ | _, .infinite _ => infinity
  | .nan, _ | _, .nan => notANumber
  | .finite _ m e, .finite _ n f =>
    if m = 0 && n = 0 then 0
    else if isTiny m e && isTiny n f then quotientHypot x.abs y.abs
    else exactHypot m e n f

end DrawingPlan.Number
