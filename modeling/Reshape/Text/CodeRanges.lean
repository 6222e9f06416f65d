/-!
# Sets of code points

A class of characters is stored as the ascending list of the ranges of its code
points.  Classes in which every second character belongs are stored by the first and
the last of such a stretch.

Main results:

- Definitions `CodeRanges.contains`, `CodeRanges.containsAlternate`: membership.
-/

namespace Reshape

namespace Text

/-- Ranges of code points, both ends included, in ascending order. -/
abbrev CodeRanges := List (Nat × Nat)

namespace CodeRanges

/-- Membership in one of the ranges.  The search ends at the first range that starts
past the code point. -/
def contains : CodeRanges → Nat → Bool
  | [], _ => false
  | (first, last) :: rest, n => first ≤ n && (n ≤ last || contains rest n)

/-- Membership in one of the ranges at an even distance from its start. -/
def containsAlternate : CodeRanges → Nat → Bool
  | [], _ => false
  | (first, last) :: rest, n =>
    first ≤ n && ((n ≤ last && (n - first) % 2 == 0) || containsAlternate rest n)

end CodeRanges

end Text

end Reshape
