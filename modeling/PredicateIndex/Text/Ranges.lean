/-!
# Sets of characters given by ranges

The classes of characters that the formats need are tables of closed ranges of code points.
-/
namespace PredicateIndex.Text

/-- Whether a code point lies in one of the closed ranges. -/
def inRanges (ranges : List (Nat × Nat)) (n : Nat) : Bool :=
  ranges.any fun range => range.1 ≤ n && n ≤ range.2

end PredicateIndex.Text
