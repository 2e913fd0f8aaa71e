import DrawingPlan.Number.Shortest

set_option autoImplicit false

namespace DrawingPlan.Number

structure Layout where
  lowest : Int
  highest : Int
  pointed : Bool

def Layout.exact : Layout := ⟨-4, 15, true⟩

def Layout.brief : Layout := ⟨-4, 5, false⟩

def dropTrailingZeros (ds : List Char) : List Char :=
  (ds.reverse.dropWhile (· = '0')).reverse

def powerOfTen (decade : Int) : List Char :=
  let ds := Nat.toDigits 10 decade.natAbs
  'e' :: (if decade < 0 then '-' else '+') :: (if ds.length < 2 then '0' :: ds else ds)

def Layout.fraction (layout : Layout) (ds : List Char) : List Char :=
  if !ds.isEmpty then '.' :: ds else if layout.pointed then ['.', '0'] else []

def Layout.digits (layout : Layout) (ds : List Char) (decade : Int) : List Char :=
  if decade < layout.lowest || layout.highest < decade then
    ds.take 1 ++ (if ds.length ≤ 1 then [] else '.' :: ds.drop 1) ++ powerOfTen decade
  else if decade < 0 then
    '0' :: '.' :: List.replicate ((-decade).toNat - 1) '0' ++ ds
  else
    let width := decade.toNat + 1
    ds.take width ++ List.replicate (width - ds.length) '0' ++ layout.fraction (ds.drop width)

def Layout.scaled (layout : Layout) (number : Scaled) : List Char :=
  let ds := Nat.toDigits 10 number.digits
  layout.digits (dropTrailingZeros ds) (number.exponent + (ds.length : Int) - 1)

def Layout.render (layout : Layout) (scale : Nat → Int → Scaled) (x : Float) : String :=
  match Parts.ofFloat x with
  | .nan => "nan"
  | .infinite negative => if negative then "-inf" else "inf"
  | .finite negative mantissa exponent =>
    let size :=
      if mantissa = 0 then '0' :: layout.fraction []
      else layout.scaled (scale mantissa exponent)
    String.ofList (if negative then '-' :: size else size)

def exactText (x : Float) : String :=
  Layout.exact.render shortest x

def briefText (x : Float) : String :=
  let six (mantissa : Nat) (exponent : Int) :=
    let (n, d) := scaledRatio mantissa 1 exponent
    roundedTo 6 n d
  Layout.brief.render six x

end DrawingPlan.Number
