/-!
# Sets of characters as runs

A set of code points is given by the lengths of its runs: first a run outside of the set, then one
inside, and so on. What follows the last run is outside.
-/

namespace StructuralSearch

namespace Text

/-- Whether a code point belongs to the set with these runs. -/
def inRuns : List Nat → Nat → Bool
  | outside :: inside :: rest, n =>
    if n < outside then false
    else if n - outside < inside then true
    else inRuns rest (n - outside - inside)
  | _, _ => false

example : (List.range 8).filter (inRuns [1, 2, 3, 1]) = [1, 2, 6] := by decide

end Text

end StructuralSearch
