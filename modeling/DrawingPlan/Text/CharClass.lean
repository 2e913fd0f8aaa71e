import DrawingPlan.Text.Basic

set_option autoImplicit false

namespace DrawingPlan

structure CharClass where
  ranges : List (Nat × Nat)

def CharClass.has (cls : CharClass) (symbol : Symbol) : Bool :=
  cls.ranges.any fun range => range.1 ≤ symbol.code && symbol.code ≤ range.2

theorem CharClass.has_iff (cls : CharClass) (symbol : Symbol) :
    cls.has symbol = true ↔
      ∃ range ∈ cls.ranges, range.1 ≤ symbol.code ∧ symbol.code ≤ range.2 := by
  simp [CharClass.has]

end DrawingPlan
