/-!
# Sets of characters

A set of characters is a list of ranges of code points.
-/

namespace ClusterMap.Text

/-- Whether a code point lies in one of some ranges, whose ends are given. -/
def inRanges (ranges : List (Nat × Nat)) (n : Nat) : Bool :=
  ranges.any fun (first, last) => first ≤ n && n ≤ last

end ClusterMap.Text
