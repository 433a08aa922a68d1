import CrossVenue.Number.Root
import CrossVenue.Rejection

/-!
# Signed 256-bit arithmetic

Amounts are computed as unbounded integers and checked against the range of signed words of 256 bits
at fixed points.

* `checkWord_eq_ok_iff`, `checkNatural_eq_ok_iff` : what passes a check, and that it is unchanged;
* `truncatedQuotient_eq_ok_iff` : division fails at zero only.
-/

set_option autoImplicit false

namespace CrossVenue

/-- The greatest signed word of 256 bits. -/
def maxWord : Nat :=
  0x7fffffffffffffffffffffffffffffffffffffffffffffffffffffffffffffff

/-- The least signed word of 256 bits. -/
def minWord : Int := -(maxWord : Int) - 1

/-- The greatest word of 64 bits. -/
def maxWord64 : Nat := 0xffffffffffffffff

/-- The greatest word of 128 bits. -/
def maxWord128 : Nat := 0xffffffffffffffffffffffffffffffff

/-- The value itself, if a signed word holds it. -/
def checkWord (label : Text) (v : Int) : Except Rejection Int :=
  if v < minWord ∨ (maxWord : Int) < v then reject (.pool (.overflow label v)) else .ok v

/-- The natural number itself, if a signed word holds it. -/
def checkNatural (label : Text) (v : Nat) : Except Rejection Nat :=
  if maxWord < v then reject (.pool (.overflow label v)) else .ok v

/-- The quotient without its fraction. -/
def truncatedQuotient (n d : Int) : Except Rejection Int :=
  if d = 0 then reject (.pool .divisionByZero) else .ok (n.tdiv d)

/-- The integer square root of a number that is not negative. -/
def squareRoot (v : Int) : Except Rejection Nat :=
  if v < 0 then reject (.pool (.negativeRoot v)) else .ok (Number.root v.toNat)

theorem checkWord_eq_ok_iff {label : Text} {v w : Int} :
    checkWord label v = .ok w ↔ w = v ∧ minWord ≤ v ∧ v ≤ maxWord := by
  unfold checkWord reject
  split
  · simp; omega
  · simp only [Except.ok.injEq]
    omega

theorem checkNatural_eq_ok_iff {label : Text} {v w : Nat} :
    checkNatural label v = .ok w ↔ w = v ∧ v ≤ maxWord := by
  unfold checkNatural reject
  split
  · simp; omega
  · simp only [Except.ok.injEq]
    omega

theorem truncatedQuotient_eq_ok_iff {n d q : Int} :
    truncatedQuotient n d = .ok q ↔ d ≠ 0 ∧ q = n.tdiv d := by
  unfold truncatedQuotient reject
  split
  · simp_all
  · simp_all [eq_comm]

end CrossVenue
