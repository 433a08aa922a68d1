/-!
# Long integers

An integer is read and written in decimal digits only up to a length.  `isWritable_iff` says which
integers are short enough in terms of their magnitude.
-/

set_option autoImplicit false

namespace CrossVenue.Number

/-- The longest run of digits that is read or written as one integer. -/
def maxDigits : Nat := 4300

/-- The least natural number that has too many digits. -/
def tooLong : Nat := Nat.pow 10 maxDigits

/-- Are the integer's digits few enough to be written? -/
def isWritable (n : Int) : Bool := n.natAbs < tooLong

theorem isWritable_iff {n : Int} :
    isWritable n = true ↔ -(tooLong : Int) < n ∧ n < tooLong := by
  simp only [isWritable, decide_eq_true_eq]
  omega

end CrossVenue.Number
