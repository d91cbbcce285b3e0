/-!
# Sets of characters as ranges

A property of characters is listed as the ranges of code points that have it, in increasing order.
-/

namespace FontScores.Unicode

/-- Ranges of code points, both ends included, in increasing order and apart from each other. -/
abbrev Ranges := List (Nat × Nat)

/-- Whether a code point lies in one of the ranges; looks no further than the first range that
starts above it. -/
def Ranges.contains : Ranges → Nat → Bool
  | [], _ => false
  | (first, last) :: others, code =>
    if code < first then false else code ≤ last || Ranges.contains others code

end FontScores.Unicode
