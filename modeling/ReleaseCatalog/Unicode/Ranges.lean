/-!
# Tables of code points

The character classes of the library are tables of *ranges*: pairs of code
points, both ends included, disjoint and in ascending order.  The order lets a
lookup stop at the first range that begins above the character, so the common
characters, which have small code points, cost a few comparisons.
-/

namespace ReleaseCatalog.Unicode

/-- Ranges of code points, both ends included. -/
abbrev CodeTable := List (Nat × Nat)

namespace CodeTable

/-- Whether a code point lies in a range of an ascending table. -/
def covers : CodeTable → Nat → Bool
  | [], _ => false
  | (lo, hi) :: rest, c => if c < lo then false else if c ≤ hi then true else covers rest c
termination_by structural table _ => table

end CodeTable

end ReleaseCatalog.Unicode
