/-! # Tables of character ranges

    A property of characters is stored as a list of inclusive code point
    ranges. `inRanges` is the one way the tables are read.
-/

namespace QueryPaths.Text

/-- **Membership** of the code point `n` in a table of inclusive ranges. -/
def inRanges (ranges : List (Nat × Nat)) (n : Nat) : Bool :=
  ranges.any fun (lo, hi) => lo ≤ n && n ≤ hi

/-- A code point is in a table exactly if one of its ranges holds it. -/
theorem inRanges_eq_true_iff {ranges : List (Nat × Nat)} {n : Nat} :
    inRanges ranges n = true ↔ ∃ r ∈ ranges, r.1 ≤ n ∧ n ≤ r.2 := by
  simp [inRanges]

end QueryPaths.Text
