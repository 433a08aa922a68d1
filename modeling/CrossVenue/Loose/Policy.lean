import CrossVenue.Arbitrage.Policy
import CrossVenue.Json.Order
import CrossVenue.Loose.Pool

/-!
# Loose fee correction

Thresholds and percentages of any kind.  A threshold is compared with when it is reached, and a percentage
is computed with when it is the one that applies.

* `looseKept_cases` : the percentage is one of the three of the policy;
* `policy?_ofPolicy` : a policy among loose policies.
-/

set_option autoImplicit false

namespace CrossVenue

/-- A policy whose thresholds and percentages may be any values. -/
structure LoosePolicy where
  mildThreshold : Json
  moderateThreshold : Json
  mildPercent : Json
  moderatePercent : Json
  severePercent : Json

/-- The price deviation of two loose pools, if one of the numbers is no integer. -/
def looseDeviation (source target : LoosePool) : Attempt Scalar := do
  let denominator ← source.reserveB.product target.reserveA
  if denominator.isEqual 0 then failWith (.pool .undefinedDeviation)
  else
    let crossed ← source.reserveA.product target.reserveB
    let numerator ← (← crossed.product feeScale).checkWord "deviation numerator"
    (← numerator.truncatedQuotient denominator).difference feeScale

/-- The price deviation of two loose pools, in parts of a million. -/
def LoosePool.deviationRatio (source target : LoosePool) : Attempt Scalar :=
  match source.pool?, target.pool? with
  | some p, some q => do
    let ratio ← (CrossVenue.deviationRatio p q : Except Rejection Int)
    .ok ratio
  | _, _ => looseDeviation source target

namespace LoosePolicy

/-- A policy as a loose policy. -/
def ofPolicy (policy : Policy) : LoosePolicy :=
  ⟨.int policy.mildThreshold, .int policy.moderateThreshold, .int policy.mildPercent,
    .int policy.moderatePercent, .int policy.severePercent⟩

/-- The policy that a loose policy is, if all its values are integers. -/
def policy? : LoosePolicy → Option Policy
  | ⟨.int mild, .int moderate, .int mildPercent, .int moderatePercent, .int severePercent⟩ =>
    some ⟨mild, moderate, mildPercent, moderatePercent, severePercent⟩
  | _ => none

/-- Is a ratio not below a threshold? -/
def reaches (ratio threshold : Json) : Attempt Bool := do
  let o ← ratio.order threshold
  .ok (o == some .gt || o == some .eq)

/-- The percentage of the size that is kept at a deviation, if one of the numbers is no integer. -/
def looseKept (policy : LoosePolicy) (ratio : Json) : Attempt Json := do
  if ← reaches ratio policy.mildThreshold then .ok policy.mildPercent
  else if ← reaches ratio policy.moderateThreshold then .ok policy.moderatePercent
  else .ok policy.severePercent

/-- The percentage of the size that is kept at a deviation. -/
def keptPercent (policy : LoosePolicy) (ratio : Json) : Attempt Json :=
  match policy.policy?, ratio with
  | some exact, .int n => .ok (.int (exact.keptPercent n))
  | _, ratio => policy.looseKept ratio

/-- The part of a size that is kept between two loose pools, if one of the numbers is no integer. -/
def looseApply (policy : LoosePolicy) (size : Json) (source target : LoosePool) :
    Attempt Scalar := do
  let ratio ← source.deviationRatio target
  let percent ← policy.keptPercent ratio.toJson
  requireWritable (Policy.correctionLine ratio.piece percent.inSentence size.inSentence)
  let scaled ← size.product percent
  scaled.truncatedQuotient 100

/-- The part of a size that is kept between two loose pools. -/
def apply (policy : LoosePolicy) (size : Json) (source target : LoosePool) : Attempt Scalar :=
  match policy.policy?, size, source.pool?, target.pool? with
  | some exact, .int n, some p, some q => do
    .ok (← exact.apply n p q)
  | _, size, _, _ => policy.looseApply size source target

theorem policy?_ofPolicy (policy : Policy) : (ofPolicy policy).policy? = some policy := rfl

theorem looseKept_cases {policy : LoosePolicy} {ratio percent : Json}
    (h : policy.looseKept ratio = .ok percent) :
    percent = policy.mildPercent ∨ percent = policy.moderatePercent ∨
      percent = policy.severePercent := by
  unfold looseKept at h
  cases hm : reaches ratio policy.mildThreshold with
  | error e => simp [hm, bind, Except.bind] at h
  | ok mild =>
    cases mild with
    | true => simp_all [bind, Except.bind]
    | false =>
      cases hd : reaches ratio policy.moderateThreshold with
      | error e => simp [hm, hd, bind, Except.bind] at h
      | ok moderate => cases moderate <;> simp_all [bind, Except.bind]

end LoosePolicy

end CrossVenue
