/-!
# Sets of code points as ranges

A set of characters is given by the inclusive ranges of its code points, in increasing order.
`mem_ranges_iff` says which code points such a table holds.
-/

set_option autoImplicit false

namespace CrossVenue.Text

/-- Inclusive ranges of code points. -/
abbrev Ranges := List (Nat × Nat)

/-- Is the code point in one of the ranges? -/
def Ranges.contains (table : Ranges) (n : Nat) : Bool :=
  table.any fun r => r.1 ≤ n && n ≤ r.2

theorem mem_ranges_iff {table : Ranges} {n : Nat} :
    table.contains n = true ↔ ∃ r ∈ table, r.1 ≤ n ∧ n ≤ r.2 := by
  simp [Ranges.contains]

end CrossVenue.Text
