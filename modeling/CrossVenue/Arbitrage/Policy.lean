import CrossVenue.Failure
import CrossVenue.Pool.Basic

/-!
# Fee correction

The best trade size is computed as if there were no fees, so it is too large.  The deeper the price
deviation between two pools, the less the fees weigh and the more of the size is kept.  What is kept of
which size is written down first, so a size that is too long to be written is not corrected.

* `keptPercent_cases` : the percentage is one of the three of the policy.
-/

set_option autoImplicit false

namespace CrossVenue

/-- Thresholds of the price deviation, in parts of a million, and the percentage kept in each band. -/
structure Policy where
  mildThreshold : Int
  moderateThreshold : Int
  mildPercent : Int
  moderatePercent : Int
  severePercent : Int
deriving DecidableEq, Repr

/-- The policy that is used when none is given. -/
def Policy.default : Policy := ⟨-10000, -20000, 90, 95, 99⟩

/-- The price deviation of two pools, in parts of a million: below zero when the first is cheaper. -/
def deviationRatio (source target : Pool) : Except Rejection Int := do
  let denominator : Int := source.reserveB * target.reserveA
  if denominator = 0 then reject (.pool .undefinedDeviation)
  else
    let numerator ← checkWord "deviation numerator" (source.reserveA * target.reserveB * feeScale)
    .ok (numerator.tdiv denominator - feeScale)

namespace Policy

/-- The percentage of the size that is kept at a deviation. -/
def keptPercent (policy : Policy) (ratio : Int) : Int :=
  if policy.mildThreshold ≤ ratio then policy.mildPercent
  else if policy.moderateThreshold ≤ ratio then policy.moderatePercent
  else policy.severePercent

/-- The line that says what is kept of a size. -/
def correctionLine (ratio : Piece) (percent size : Sentence) : Sentence :=
  .join ["Fee correction: ratio=", ratio, ", keeping ", percent, "% of ", size]

/-- The part of a size that is kept between two pools. -/
def apply (policy : Policy) (size : Int) (source target : Pool) : Attempt Int := do
  let ratio ← (deviationRatio source target : Except Rejection Int)
  let percent := policy.keptPercent ratio
  requireWritable (correctionLine ratio [percent] [size])
  .ok ((size * percent).tdiv 100)

theorem keptPercent_cases (policy : Policy) (ratio : Int) :
    policy.keptPercent ratio = policy.mildPercent ∨
      policy.keptPercent ratio = policy.moderatePercent ∨
      policy.keptPercent ratio = policy.severePercent := by
  unfold keptPercent
  split
  · exact Or.inl rfl
  · split
    · exact Or.inr (Or.inl rfl)
    · exact Or.inr (Or.inr rfl)

end Policy

end CrossVenue
