/-!
# Ranges of characters

A class of characters as a list of ranges of code points, both ends included.
-/

namespace CodeGauge.Text

/-- The character lies in one of the ranges. -/
def isInRanges (ranges : List (Nat × Nat)) (c : Char) : Bool :=
  ranges.any fun (first, last) => first ≤ c.toNat && c.toNat ≤ last

end CodeGauge.Text
