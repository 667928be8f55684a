/-!
# Sets of code points as ranges

A character property is carried as a list of closed ranges of code points, ascending and
apart. Membership is a search over the ranges; `wellFormed` and `count` are the checks that a
table's data is what its module says it is.
-/

namespace HostInterop.Text

/-- Whether code point `n` lies in one of the closed ranges `rs`. -/
def inRanges (rs : List (Nat × Nat)) (n : Nat) : Bool :=
  rs.any fun r => r.1 ≤ n && n ≤ r.2

/-- The ranges are nonempty, ascending, and no two of them touch. -/
def wellFormed : List (Nat × Nat) → Bool
  | [] => true
  | [r] => r.1 ≤ r.2
  | r :: s :: t => r.1 ≤ r.2 && r.2 + 1 < s.1 && wellFormed (s :: t)

/-- The number of code points in the ranges. -/
def count (rs : List (Nat × Nat)) : Nat :=
  (rs.map fun r => r.2 + 1 - r.1).foldr (· + ·) 0

/-- Membership is lying between the two ends of some range. -/
theorem inRanges_iff {rs : List (Nat × Nat)} {n : Nat} :
    inRanges rs n = true ↔ ∃ r ∈ rs, r.1 ≤ n ∧ n ≤ r.2 := by
  simp [inRanges]

theorem inRanges_nil (n : Nat) : inRanges [] n = false := rfl

theorem inRanges_cons (r : Nat × Nat) (rs : List (Nat × Nat)) (n : Nat) :
    inRanges (r :: rs) n = ((r.1 ≤ n && n ≤ r.2) || inRanges rs n) := by
  simp [inRanges, List.any_cons]

end HostInterop.Text
