/-!
# Ranges of code points

Character classes that have no short description are lists of ranges, both ends included.
-/

namespace AdRules.Text

/-- The character lies in one of the ranges. -/
def inRanges (ranges : List (Nat × Nat)) (c : Char) : Bool :=
  ranges.any fun (first, last) => decide (first ≤ c.toNat ∧ c.toNat ≤ last)

end AdRules.Text
