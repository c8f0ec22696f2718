/-! Sets of code points, written as inclusive ranges. -/

namespace RouteDoc.Text

/-- Disjoint inclusive ranges in increasing order. -/
abbrev Ranges := List (Nat × Nat)

/-- Whether a number lies in one of the ranges. The search ends at the first range past it. -/
def Ranges.covers : Ranges → Nat → Bool
  | [], _ => false
  | (low, high) :: rest, n => if n < low then false else n ≤ high || covers rest n

end RouteDoc.Text
