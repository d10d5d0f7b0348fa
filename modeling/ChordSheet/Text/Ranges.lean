/-!
# Ranges of code points

A class of characters that has no simpler rule is a table: ranges of code points in ascending
order, whose two ends belong to them.

* `inRanges_eq_true_iff` : a code point is in a table if it lies in one of the ranges.
-/

set_option autoImplicit false

namespace ChordSheet.Text

/-- Whether a code point lies in one of some ranges. -/
def inRanges (ranges : List (Nat × Nat)) (n : Nat) : Bool :=
  ranges.any fun (low, high) => low ≤ n && n ≤ high

theorem inRanges_eq_true_iff {ranges : List (Nat × Nat)} {n : Nat} :
    inRanges ranges n = true ↔ ∃ r ∈ ranges, r.1 ≤ n ∧ n ≤ r.2 := by
  simp [inRanges]

end ChordSheet.Text
