/-!
# Ranges of code points

A character property given by a table: a list of inclusive ranges of code points, in increasing
order. `inRanges_iff` says that the test finds exactly the code points of the listed ranges.
-/

namespace Timeline.Text

/-- Whether `n` lies in one of the inclusive ranges `rs`. -/
def inRanges (rs : List (Nat × Nat)) (n : Nat) : Bool :=
  rs.any fun r => r.1 ≤ n && n ≤ r.2

/-- A code point is found exactly when some listed range holds it. -/
theorem inRanges_iff (rs : List (Nat × Nat)) (n : Nat) :
    inRanges rs n = true ↔ ∃ r ∈ rs, r.1 ≤ n ∧ n ≤ r.2 := by
  simp [inRanges]

end Timeline.Text
