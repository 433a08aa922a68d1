/-!
# Integer square root

`root_spec` says that the root is the greatest number whose square is not above the radicand.
-/

set_option autoImplicit false

namespace CrossVenue.Number

/-- The greatest number whose square is at most `n`, one bit for every factor of four. -/
def root (n : Nat) : Nat :=
  if n = 0 then 0
  else
    let r := 2 * root (n / 4)
    if (r + 1) * (r + 1) ≤ n then r + 1 else r
termination_by n
decreasing_by omega

theorem root_spec (n : Nat) : root n * root n ≤ n ∧ n < (root n + 1) * (root n + 1) := by
  rw [root]
  split
  · subst_vars; decide
  · have ih := root_spec (n / 4)
    generalize root (n / 4) = r at ih
    obtain ⟨hl, hu⟩ := ih
    have e1 : 2 * r * (2 * r) = 4 * (r * r) := by
      rw [Nat.mul_mul_mul_comm]
    have e2 : (2 * r + 2) * (2 * r + 2) = 4 * ((r + 1) * (r + 1)) := by
      have : 2 * r + 2 = 2 * (r + 1) := by omega
      rw [this, Nat.mul_mul_mul_comm]
    have e3 : (2 * r + 1 + 1) * (2 * r + 1 + 1) = (2 * r + 2) * (2 * r + 2) := rfl
    simp only
    split
    · rename_i h
      exact ⟨h, by rw [e3, e2]; omega⟩
    · rename_i h
      exact ⟨by rw [e1]; omega, by omega⟩
termination_by n
decreasing_by omega

end CrossVenue.Number
