/-!
# Sets of code points given by ranges

A property of characters is stored as an array of closed ranges of code points.
-/

namespace JavadocRepair.Text

/-- A code point lies in one of the closed ranges. -/
def inRanges (ranges : Array (Nat × Nat)) (n : Nat) : Bool :=
  ranges.any fun range => range.1 ≤ n && n ≤ range.2

end JavadocRepair.Text
