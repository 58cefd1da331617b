/-! # Ranges of characters

A class of characters is given by the ascending list of the ranges of its code
points; membership reads the list until it has passed the character.
-/

namespace Scriptorium

/-- Whether a code point lies in one of the given ranges, which ascend. -/
def inRanges : List (Nat × Nat) → Nat → Bool
  | [], _ => false
  | (low, high) :: ranges, n => low ≤ n && (n ≤ high || inRanges ranges n)

end Scriptorium
