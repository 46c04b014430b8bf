/-!
# Ranges of code points

Character properties are kept as lists of inclusive ranges of code points.
-/

namespace DesiredState.Text

/-- The first and the last code point of a range. -/
abbrev CodeRange := Nat × Nat

/-- A code point lies in one of the ranges. -/
def coveredBy (ranges : List CodeRange) (n : Nat) : Bool :=
  ranges.any fun r => r.1 ≤ n && n ≤ r.2

end DesiredState.Text
