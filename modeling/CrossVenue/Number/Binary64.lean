/-!
# Binary floating-point numbers of 64 bits

A finite value is a sign and a dyadic rational `mantissa * 2 ^ exponent` in normal form: the mantissa
has 53 bits, or fewer at the least exponent.  Decimal numerals are rounded to the nearest value,
ties to the even mantissa, in exact arithmetic.

* `order?_eq_none_iff` : which values cannot be compared with integers;
* `le_floorOr_iff` : the integers up to a finite value are those up to its floor.
-/

set_option autoImplicit false

namespace CrossVenue

/-- A 64-bit floating-point number. -/
inductive Binary64
  | finite (negative : Bool) (mantissa : Nat) (exponent : Int)
  | infinite (negative : Bool)
  | undefined
deriving DecidableEq, Repr, Inhabited

namespace Binary64

/-- The exponent of the smallest positive value. -/
def minExponent : Int := -1074

/-- The greatest exponent of a finite value. -/
def maxExponent : Int := 971

/-- The least mantissa of 53 bits. -/
def leastFull : Nat := 0x10000000000000

/-- The zero of a sign. -/
def zero (negative : Bool) : Binary64 := .finite negative 0 minExponent

/-- The quotient rounded to the nearest integer, ties to even. -/
def roundedQuotient (num den : Nat) : Nat :=
  let q := num / den
  let r := num % den
  if 2 * r > den ∨ (2 * r = den ∧ q % 2 = 1) then q + 1 else q

/-- Numerator and denominator of `num / (den * 2 ^ e)`. -/
def scaledDown (num den : Nat) (e : Int) : Nat × Nat :=
  if 0 ≤ e then (num, den * Nat.pow 2 e.toNat) else (num * Nat.pow 2 (-e).toNat, den)

/-- The value nearest to a quotient of positive numbers. -/
def ofRatio (negative : Bool) (num den : Nat) : Binary64 :=
  let estimate : Int := (Nat.log2 num : Int) - (Nat.log2 den : Int) - 52
  let (n, d) := scaledDown num den estimate
  let e := max (if n / d < leastFull then estimate - 1 else estimate) minExponent
  let (n, d) := scaledDown num den e
  let q := roundedQuotient n d
  let (m, e) := if q = 2 * leastFull then (leastFull, e + 1) else (q, e)
  if e > maxExponent then .infinite negative else .finite negative m e

/-- How many decimal digits a number has; zero has none. -/
def decimalLength (n : Nat) : Nat :=
  if n = 0 then 0 else decimalLength (n / 10) + 1
termination_by n
decreasing_by omega

/-- The value nearest to `digits * 10 ^ exponent`. -/
def ofDecimal (negative : Bool) (digits : Nat) (exponent : Int) : Binary64 :=
  let magnitude := (decimalLength digits : Int) + exponent
  if digits = 0 ∨ magnitude < -330 then zero negative
  else if magnitude > 310 then .infinite negative
  else if 0 ≤ exponent then ofRatio negative (digits * Nat.pow 10 exponent.toNat) 1
  else ofRatio negative digits (Nat.pow 10 (-exponent).toNat)

/-- Is the value a finite integer? -/
def isInteger : Binary64 → Bool
  | finite _ m e => 0 ≤ e || m % Nat.pow 2 (-e).toNat == 0
  | _ => false

/-- The integer next to a finite value in the direction of zero. -/
def truncate? : Binary64 → Option Int
  | finite negative m e =>
    let n := if 0 ≤ e then m * Nat.pow 2 e.toNat else m / Nat.pow 2 (-e).toNat
    some (if negative then -(n : Int) else n)
  | _ => none

/-- How a value compares with an integer; a value that is no number does not. -/
def order? (x : Binary64) (n : Int) : Option Ordering :=
  match x with
  | finite negative m e =>
    let k : Int := if negative then -(m : Int) else m
    let scale : Nat := Nat.pow 2 e.natAbs
    some (if 0 ≤ e then compare (k * scale) n else compare k (n * scale))
  | infinite negative => some (if negative then .lt else .gt)
  | undefined => none

/-- The greatest integer that is not above a finite value; `high` stands for infinity, and `low` for its
negative and for what is no number. -/
def floorOr (low high : Int) : Binary64 → Int
  | finite negative m e =>
    let k : Int := if negative then -(m : Int) else m
    let scale : Nat := Nat.pow 2 e.natAbs
    if 0 ≤ e then k * scale else k / scale
  | infinite negative => if negative then low else high
  | undefined => low

theorem le_floorOr_iff {negative : Bool} {m : Nat} {e low high n : Int} :
    n ≤ floorOr low high (finite negative m e) ↔
      (finite negative m e).order? n = some .gt ∨ (finite negative m e).order? n = some .eq := by
  have hs : (0 : Int) < (Nat.pow 2 e.natAbs : Nat) := by
    exact_mod_cast Nat.pow_pos (by decide : 0 < 2)
  simp only [floorOr, order?]
  split
  · simp only [Option.some.injEq, Int.compare_eq_gt, Int.compare_eq_eq]
    omega
  · rw [Int.le_ediv_iff_mul_le hs]
    simp only [Option.some.injEq, Int.compare_eq_gt, Int.compare_eq_eq]
    omega

theorem order?_eq_none_iff {x : Binary64} {n : Int} : x.order? n = none ↔ x = undefined := by
  cases x <;> simp [order?]

end Binary64

end CrossVenue
