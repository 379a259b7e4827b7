/-!
# Sets of characters as ranges

The character classes of this library are lists of closed ranges of code points, ascending and
apart. They follow Unicode 17 and hold the characters beyond ASCII only: the ASCII part of each
class is written out as a rule beside the list.
-/

namespace GameTables.Unicode

/-- Whether a code point lies in one of the closed ranges. -/
def inRanges (ranges : List (Nat × Nat)) (n : Nat) : Bool :=
  ranges.any fun r => r.1 ≤ n && n ≤ r.2

end GameTables.Unicode
