/-
  Lineup.Text.Ranges
  ──────────────────
  **SETS OF CHARACTERS AS RANGES.**  A property of characters is kept as a list
  of closed ranges of their numbers.
-/

namespace Lineup.Text

/-- Whether a number lies in one of some closed ranges. -/
def inRanges (ranges : List (Nat × Nat)) (n : Nat) : Bool :=
  ranges.any fun (low, high) => low ≤ n && n ≤ high

theorem inRanges_iff (ranges : List (Nat × Nat)) (n : Nat) :
    inRanges ranges n = true ↔ ∃ r ∈ ranges, r.1 ≤ n ∧ n ≤ r.2 := by
  simp [inRanges, List.any_eq_true]

end Lineup.Text
