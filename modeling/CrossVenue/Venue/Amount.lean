import CrossVenue.Json.Scalar

/-!
# Amounts within bounds

* `checkAmount_eq_ok_iff` : which amounts a venue takes, and that it takes them as they are;
* `checkAmountOf_int_eq_ok_iff` : integers among values are taken alike.
-/

set_option autoImplicit false

namespace CrossVenue

/-- The amount, if it is between zero and a bound. -/
def checkAmount (venue label : Text) (amount : Int) (upper : Nat) : Except Rejection Nat :=
  if amount < 0 ∨ (upper : Int) < amount then
    rejectAt venue (.pool (.amountOutside label amount upper))
  else .ok amount.toNat

/-- The number that a value is, if it is between zero and a bound or does not compare with them. -/
def checkAmountOf (venue label : Text) (amount : Json) (upper : Nat) : Attempt Scalar := do
  let n ← amount.scalar
  if n.isBelow 0 || n.isAbove upper then
    failAt venue (.pool (.amountOutside label n.piece upper))
  else .ok n

theorem checkAmountOf_int_eq_ok_iff {venue label : Text} {amount : Int} {upper : Nat} {n : Scalar} :
    checkAmountOf venue label (.int amount) upper = .ok n ↔
      n = amount ∧ 0 ≤ amount ∧ amount ≤ upper := by
  have hb : Scalar.isBelow amount 0 = decide (amount < 0) := Scalar.isBelow_whole amount 0
  have ha : Scalar.isAbove amount upper = decide ((upper : Int) < amount) :=
    Scalar.isAbove_whole amount upper
  change (if Scalar.isBelow amount 0 || Scalar.isAbove amount upper then _ else Except.ok _) = _ ↔ _
  rw [hb, ha]
  by_cases h : amount < 0 ∨ (upper : Int) < amount
  · have hn : ¬ (0 ≤ amount ∧ amount ≤ upper) := by omega
    simp only [Bool.or_eq_true, decide_eq_true_eq, h, if_true, hn, and_false, iff_false]
    intro hf
    cases hf
  · have hp : 0 ≤ amount ∧ amount ≤ upper := by omega
    simp only [Bool.or_eq_true, decide_eq_true_eq, h, if_false, Except.ok.injEq, hp, and_true]
    exact eq_comm

theorem checkAmount_eq_ok_iff {venue label : Text} {amount : Int} {upper n : Nat} :
    checkAmount venue label amount upper = .ok n ↔ (n : Int) = amount ∧ n ≤ upper := by
  unfold checkAmount rejectAt
  split
  · constructor
    · intro h
      cases h
    · omega
  · simp only [Except.ok.injEq]
    omega

end CrossVenue
