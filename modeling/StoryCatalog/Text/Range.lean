/-!
# Sets of code points

A set of code points is written as the ascending list of its closed ranges. The character classes
of this library are given this way above the ASCII block, and as plain conditions inside it.
-/

namespace StoryCatalog.Text

/-- Ascending closed ranges, so that a search may stop at the first range that starts too late. -/
def inRanges : List (Nat × Nat) → Nat → Bool
  | [], _ => false
  | (low, high) :: rest, n => if n < low then false else n ≤ high || inRanges rest n

end StoryCatalog.Text
