import DrawingPlan.Number.Power

set_option autoImplicit false

namespace DrawingPlan.Number

/-- What the bits of a float say; a finite one is `mantissa * 2 ^ exponent`, with its sign. -/
inductive Parts where
  | nan
  | infinite (negative : Bool)
  | finite (negative : Bool) (mantissa : Nat) (exponent : Int)
deriving DecidableEq, Repr

def Parts.ofBits (bits : Nat) : Parts :=
  let negative := bits / twoTo 63 % 2 == 1
  let biased : Nat := bits / twoTo 52 % twoTo 11
  let fraction := bits % twoTo 52
  if biased = 0x7FF then
    if fraction = 0 then .infinite negative else .nan
  else if biased = 0 then .finite negative fraction (-1074)
  else .finite negative (fraction + twoTo 52) ((biased : Int) - 1075)

def Parts.ofFloat (x : Float) : Parts :=
  .ofBits x.toBits.toNat

def isFinite (x : Float) : Bool :=
  match Parts.ofFloat x with
  | .finite .. => true
  | _ => false

def truncate? (x : Float) : Option Int :=
  match Parts.ofFloat x with
  | .finite negative mantissa exponent =>
    let size := mantissa * twoTo exponent.toNat / twoTo (-exponent).toNat
    some (if negative then -(size : Int) else size)
  | _ => none

def isIntegral (x : Float) : Bool :=
  match Parts.ofFloat x with
  | .finite _ mantissa exponent => mantissa % twoTo (-exponent).toNat == 0
  | _ => false

/-- The quotient rounded to the nearest integer, a tie to the even neighbour. -/
def roundDiv (n d : Nat) : Nat :=
  let q := n / d
  let r := n % d
  if 2 * r < d then q
  else if d < 2 * r then q + 1
  else if q % 2 = 0 then q else q + 1

def scaledRatio (n d : Nat) (exponent : Int) : Nat × Nat :=
  (n * twoTo exponent.toNat, d * twoTo (-exponent).toNat)

def fullExponent (n d : Nat) : Int :=
  let guess : Int := (n.log2 : Int) - d.log2
  let (a, b) := scaledRatio n d (-guess)
  if b ≤ a then guess - 52 else guess - 53

def unitExponent (n d : Nat) : Int :=
  -- Below the smallest normal float the unit shrinks no further.
  max (fullExponent n d) (-1074)

/--
The bits of the float nearest to `n / d`, for positive `d`; what reaches the end of the range is
infinite. Bit patterns of positive floats are ordered as the floats are, so that a mantissa that
rounds up to the next power of two carries into the exponent.
-/
def nearestBits (n d : Nat) : Nat :=
  if n = 0 then 0
  else
    let unit := unitExponent n d
    let (a, b) := scaledRatio n d (-unit)
    -- The leading bit of a normal mantissa adds the last step to the exponent field.
    min ((unit + 1074).toNat * twoTo 52 + roundDiv a b) (0x7FF * twoTo 52)

def nearest (negative : Bool) (n d : Nat) : Float :=
  let bits := nearestBits n d
  Float.ofBits (UInt64.ofNat (if negative then twoTo 63 + bits else bits))

def infinity : Float :=
  Float.ofBits 0x7FF0000000000000

def notANumber : Float :=
  Float.ofBits 0x7FF8000000000000

end DrawingPlan.Number
