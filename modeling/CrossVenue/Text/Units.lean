import CrossVenue.Text.Basic

/-!
# 16-bit units

Characters beyond the first plane are written as a high and a low unit.  A unit that does not meet
its other half is a code point by itself.

* `joined_valid` : every pair is a character.
-/

set_option autoImplicit false

namespace CrossVenue.Text.Units

/-- The first half of a pair. -/
def isHigh (n : Nat) : Bool := 0xD800 ≤ n && n < 0xDC00

/-- The second half of a pair. -/
def isLow (n : Nat) : Bool := 0xDC00 ≤ n && n < 0xE000

/-- The number of a pair. -/
def joinedNumber (high low : Nat) : Nat := 0x10000 + (high - 0xD800) * 0x400 + (low - 0xDC00)

/-- The character of a pair. -/
def joined (high low : Nat) : CodePoint := .char (Char.ofNat (joinedNumber high low))

/-- The code points of units. -/
def codePoints : List Nat → List CodePoint
  | [] => []
  | [n] => [.ofNat n]
  | n :: m :: rest =>
    if isHigh n && isLow m then joined n m :: codePoints rest
    else .ofNat n :: codePoints (m :: rest)

theorem joined_valid {high low : Nat} (h : isHigh high = true) (l : isLow low = true) :
    (joinedNumber high low).isValidChar := by
  simp only [isHigh, isLow, Bool.and_eq_true, decide_eq_true_eq] at h l
  right
  unfold joinedNumber
  omega

end CrossVenue.Text.Units
