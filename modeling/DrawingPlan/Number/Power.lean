
set_option autoImplicit false

namespace DrawingPlan.Number

def twoTo (n : Nat) : Nat :=
  Nat.pow 2 n

def tenTo (n : Nat) : Nat :=
  Nat.pow 10 n

end DrawingPlan.Number
