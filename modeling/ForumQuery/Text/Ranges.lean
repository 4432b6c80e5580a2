/-!
# Character classes as ranges

A class of characters is a list of ranges of code points, written ascending and apart.  `inRanges`
looks a code point up and stops at the first range above it, so a low code point is decided by
the first few ranges alone.
-/

namespace ForumQuery.Text

/-- Whether a number lies in one of the ranges, both ends included. -/
def inRanges : List (Nat × Nat) → Nat → Bool
  | [], _ => false
  | (low, high) :: rest, n =>
    if n < low then false else if n ≤ high then true else inRanges rest n

end ForumQuery.Text
