import DrawingPlan.Text.Basic

set_option autoImplicit false

namespace DrawingPlan

inductive Fault where
  -- The sine or cosine of an infinite angle.
  | angle
  | noGeometry
  | digits (count : Nat)
  -- Any other failure, with its kind and in its own words.
  | host (kind : String) (text : Text)
deriving DecidableEq, Repr

def tooManyDigits (count : Nat) : String :=
  "Exceeds the limit (4300 digits) for integer string conversion: value has " ++
    toString count ++ " digits; use sys.set_int_max_str_digits() to increase the limit"

def Fault.longNumber : Fault :=
  .host "ValueError" ("Exceeds the limit (4300 digits) for integer string conversion; " ++
    "use sys.set_int_max_str_digits() to increase the limit")

def Fault.fewSides : Fault :=
  .host "ValidationError" "sides: greater_than_equal"

def Fault.deepValue : Fault :=
  .host "RecursionError"
    "maximum recursion depth exceeded while getting the repr of an object"

def Fault.message : Fault → Text
  | .angle => "math domain error"
  | .noGeometry => "'NoneType' object has no attribute 'kind'"
  | .digits count => tooManyDigits count
  | .host _ text => text

end DrawingPlan
