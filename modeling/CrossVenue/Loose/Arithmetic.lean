import CrossVenue.Json.Scalar
import CrossVenue.Number.Word

/-!
# Checked arithmetic on numbers of any kind

The operations of checked arithmetic on numbers that need not be integers.  On integers they are those of
words.

* `checkWord_whole`, `truncatedQuotient_whole` : which operations of words they are.
-/

set_option autoImplicit false

namespace CrossVenue.Scalar

/-- The number itself, unless it is outside of the range of signed words. -/
def checkWord (v : Scalar) (label : Text) : Attempt Scalar :=
  if v.isBelow minWord || v.isAbove maxWord then failWith (.pool (.overflow label v.piece))
  else .ok v

/-- The quotient without its fraction, for numbers one of which is no integer. -/
def fractionlessQuotient (n d : Scalar) : Attempt Scalar := do
  let q ← n.magnitude.floorQuotient d.magnitude
  .ok (if n.isBelow 0 != d.isBelow 0 then q.negated else q)

/-- The quotient without its fraction. -/
def truncatedQuotient (n d : Scalar) : Attempt Scalar :=
  match n, d with
  | .whole n, .whole d => do
    let q ← (CrossVenue.truncatedQuotient n d : Except Rejection Int)
    .ok q
  | n, d =>
    if d.isEqual 0 then failWith (.pool .divisionByZero) else fractionlessQuotient n d

/-- The integer square root of a number that is not negative. -/
def squareRoot (v : Scalar) : Attempt Scalar :=
  if v.isBelow 0 then failWith (.pool (.negativeRoot v.piece))
  else
    match v.integer? with
    | some n => do
      let r ← (CrossVenue.squareRoot n : Except Rejection Nat)
      .ok r
    | none => breakDown .wrongKind

/-- The greatest multiple of the granularity that is not above the amount. -/
def roundDown (amount granularity : Scalar) : Attempt Scalar :=
  if granularity.isEqual 1 then .ok amount
  else do
    let times ← amount.floorQuotient granularity
    times.product granularity

theorem checkWord_whole (label : Text) (n : Int) :
    checkWord n label = (do
      let m ← (CrossVenue.checkWord label n : Except Rejection Int)
      .ok (m : Scalar)) := by
  have hb : Scalar.isBelow n minWord = decide (n < minWord) := Scalar.isBelow_whole n minWord
  have ha : Scalar.isAbove n maxWord = decide ((maxWord : Int) < n) :=
    Scalar.isAbove_whole n maxWord
  unfold checkWord CrossVenue.checkWord
  rw [hb, ha]
  by_cases h : n < minWord ∨ (maxWord : Int) < n
  · simp only [Bool.or_eq_true, decide_eq_true_eq, h, if_true]
    rfl
  · simp only [Bool.or_eq_true, decide_eq_true_eq, h, if_false]
    rfl

theorem truncatedQuotient_whole {n d : Int} (h : d ≠ 0) :
    truncatedQuotient n d = .ok (n.tdiv d : Int) := by
  simp only [truncatedQuotient, CrossVenue.truncatedQuotient, h, if_false]
  rfl

end CrossVenue.Scalar

namespace CrossVenue.Json

/-- The quotient without its fraction of values that have to be numbers; that the divisor is zero is found
first. -/
def truncatedQuotient (n d : Json) : Attempt Scalar := do
  if d.isZero then failWith (.pool .divisionByZero)
  else
    let n ← n.scalar
    let d ← d.scalar
    n.truncatedQuotient d

end CrossVenue.Json
