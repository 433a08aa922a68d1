import CrossVenue.Proofs.Arbitrage.Affordable
import Mathlib.Data.Rat.Floor

/-!
# The deeper the deviation, the more is kept

The deviation of two pools is their price ratio in parts of a million, rounded down and taken from one.  So
it grows with the exact ratio, and a policy whose bands are in order keeps a percentage that shrinks as the
ratio grows.  A percentage of a size is truncated, and lies between nothing and the size on either side of
nothing.  A size that is too long to be written has no part that is kept, since what is kept of it would
have to be said.

* `Policy.Graded` : a policy whose bands are in order;
* `deviationRatio_eq_floor`, `deviationRatio_mono` : the deviation by the exact ratio;
* `Policy.Graded.keptPercent_antitone` : the bands by the deviation;
* `deeper_deviation_keeps_more` : what is kept of a size.
-/

set_option autoImplicit false

namespace CrossVenue

/-! ## The deviation and the exact ratio -/

/-- The price of asset B on the source in units of its price on the target. -/
def priceRatio (source target : Pool) : ℚ :=
  (source.reserveA * target.reserveB) / (source.reserveB * target.reserveA)

/-- The deviation is the exact ratio less one, in parts of a million and rounded down. -/
theorem deviationRatio_eq_floor {source target : Pool} {ratio : Int}
    (h : deviationRatio source target = .ok ratio) :
    ratio = ⌊priceRatio source target * feeScale⌋ - feeScale := by
  obtain ⟨-, -, rfl⟩ := deviationRatio_eq_ok_iff.1 h
  have hratio : priceRatio source target * feeScale =
      ((source.reserveA * target.reserveB * feeScale : Nat) : ℚ) /
        ((source.reserveB * target.reserveA : Nat) : ℚ) := by
    unfold priceRatio
    push_cast
    ring
  rw [hratio, Rat.floor_natCast_div_natCast, Int.natCast_ediv]

theorem deviationRatio_mono {source target source' target' : Pool} {ratio ratio' : Int}
    (h : deviationRatio source target = .ok ratio) (h' : deviationRatio source' target' = .ok ratio')
    (hle : priceRatio source target ≤ priceRatio source' target') : ratio ≤ ratio' := by
  rw [deviationRatio_eq_floor h, deviationRatio_eq_floor h']
  have hscale : (0 : ℚ) ≤ feeScale := Nat.cast_nonneg _
  exact Int.sub_le_sub_right (Int.floor_le_floor (mul_le_mul_of_nonneg_right hle hscale)) _

/-! ## The bands -/

namespace Policy

/-- A policy that keeps no more in a band than in the next deeper one, and never more than everything. -/
structure Graded (policy : Policy) : Prop where
  thresholds : policy.moderateThreshold ≤ policy.mildThreshold
  mild_nonneg : 0 ≤ policy.mildPercent
  mild_le : policy.mildPercent ≤ policy.moderatePercent
  moderate_le : policy.moderatePercent ≤ policy.severePercent
  severe_le : policy.severePercent ≤ 100

variable {policy : Policy}

theorem Graded.inRange (hp : policy.Graded) : policy.InRange := by
  obtain ⟨-, hnonneg, hmild, hmoderate, hsevere⟩ := hp
  exact ⟨by omega, by omega, by omega⟩

/-- **The percentage that is kept shrinks as the ratio grows**, also from one band to the next. -/
theorem Graded.keptPercent_antitone (hp : policy.Graded) {ratio ratio' : Int} (hle : ratio ≤ ratio') :
    policy.keptPercent ratio' ≤ policy.keptPercent ratio := by
  obtain ⟨hthresholds, -, hmild, hmoderate, -⟩ := hp
  unfold keptPercent
  split_ifs <;> omega

end Policy

/-- What is kept of a size that is not negative grows with the percentage. -/
theorem tdiv_percent_mono {size percent percent' : Int} (hsize : 0 ≤ size) (h0 : 0 ≤ percent)
    (hle : percent ≤ percent') : (size * percent).tdiv 100 ≤ (size * percent').tdiv 100 := by
  have hpart : 0 ≤ size * percent := Int.mul_nonneg hsize h0
  have hparts : size * percent ≤ size * percent' := Int.mul_le_mul_of_nonneg_left hle hsize
  rw [Int.tdiv_eq_ediv_of_nonneg hpart, Int.tdiv_eq_ediv_of_nonneg (hpart.trans hparts)]
  exact Int.ediv_le_ediv (by decide) hparts

/-- **The deeper the deviation, the more is kept, and never more than there is.**  Of two pairs of pools the
one with the smaller price ratio keeps at least the percentage of the other, and so at least as much of a
size.  Wherever the deviation is defined a part of each size that can be written is kept, and lies between
nothing and the size, whatever the sign of the size is; on all other sizes the correction breaks down. -/
theorem deeper_deviation_keeps_more {policy : Policy} (hp : policy.Graded) :
    (∀ (source target source' target' : Pool) (ratio ratio' : Int),
      deviationRatio source target = .ok ratio → deviationRatio source' target' = .ok ratio' →
      priceRatio source target ≤ priceRatio source' target' →
      policy.keptPercent ratio' ≤ policy.keptPercent ratio ∧
        ∀ size kept kept' : Int, 0 ≤ size → policy.apply size source target = .ok kept →
          policy.apply size source' target' = .ok kept' → kept' ≤ kept) ∧
    ∀ (source target : Pool) (ratio : Int), deviationRatio source target = .ok ratio →
      ∀ size : Int,
        (Number.isWritable size = true → ∃ kept, policy.apply size source target = .ok kept ∧
          (0 ≤ size → 0 ≤ kept ∧ kept ≤ size) ∧ (size ≤ 0 → size ≤ kept ∧ kept ≤ 0)) ∧
        (Number.isWritable size = false →
          policy.apply size source target = .error (.broken .badText)) := by
  constructor
  · intro source target source' target' ratio ratio' h h' hle
    have hpercent := hp.keptPercent_antitone (deviationRatio_mono h h' hle)
    refine ⟨hpercent, fun size kept kept' hsize hkept hkept' => ?_⟩
    obtain ⟨r, hr, -, -, rfl⟩ := Policy.apply_eq_ok_iff.1 hkept
    obtain ⟨r', hr', -, -, rfl⟩ := Policy.apply_eq_ok_iff.1 hkept'
    cases h.symm.trans hr
    cases h'.symm.trans hr'
    exact tdiv_percent_mono hsize (hp.inRange.keptPercent ratio').1 hpercent
  · intro source target ratio h size
    have happly := hp.inRange.apply_eq h size
    refine ⟨fun hwritten => ?_, fun hlong => ?_⟩
    · rw [if_pos hwritten] at happly
      exact ⟨_, happly, hp.inRange.apply_mem happly⟩
    · rw [happly, hlong]
      rfl

theorem default_graded : Policy.default.Graded :=
  ⟨by decide, by decide, by decide, by decide, by decide⟩

theorem deviationRatio_ether : deviationRatio etherSeller etherBuyer = .ok (-62500) := by
  decide +kernel

/-- The buyer at three thousand two hundred deviates by more than the one at three thousand and fifty, and of
a size below zero something is kept that is not below it. -/
theorem ether_keeps_more :
    (Policy.default.Graded ∧ deviationRatio etherSeller etherBuyer = .ok (-62500) ∧
      deviationRatio etherSeller etherNarrowBuyer = .ok (-16394) ∧
      priceRatio etherSeller etherBuyer ≤ priceRatio etherSeller etherNarrowBuyer) ∧
    Policy.default.keptPercent (-16394) ≤ Policy.default.keptPercent (-62500) ∧
    (Number.isWritable (-7) = true ∧
      ∃ kept, Policy.default.apply (-7) etherSeller etherNarrowBuyer = .ok kept ∧
        -7 ≤ kept ∧ kept ≤ 0) := by
  have h' : deviationRatio etherSeller etherNarrowBuyer = .ok (-16394) := by decide +kernel
  have hle : priceRatio etherSeller etherBuyer ≤ priceRatio etherSeller etherNarrowBuyer := by
    norm_num [priceRatio, etherSeller, etherBuyer, etherNarrowBuyer]
  have hwritten : Number.isWritable (-7) = true := by decide +kernel
  obtain ⟨hmore, hkept⟩ := deeper_deviation_keeps_more default_graded
  obtain ⟨kept, happly, -, hnonpos⟩ := (hkept _ _ _ h' (-7)).1 hwritten
  exact ⟨⟨default_graded, deviationRatio_ether, h', hle⟩,
    (hmore _ _ _ _ _ _ deviationRatio_ether h' hle).1, hwritten, kept, happly, hnonpos (by decide)⟩

/-- **Nothing is kept of a size that is too long to be written.** -/
theorem long_size_breaks :
    Policy.default.apply Number.tooLong etherSeller etherBuyer = .error (.broken .badText) ∧
      ¬ ∀ (policy : Policy) (source target : Pool) (ratio : Int), policy.Graded →
        deviationRatio source target = .ok ratio →
        ∀ size : Int, ∃ kept, policy.apply size source target = .ok kept := by
  have hlong : Number.isWritable Number.tooLong = false := by decide +kernel
  have hbreaks : Policy.default.apply Number.tooLong etherSeller etherBuyer =
      .error (.broken .badText) := by
    rw [default_graded.inRange.apply_eq deviationRatio_ether, hlong]
    rfl
  refine ⟨hbreaks, fun h => ?_⟩
  obtain ⟨kept, hkept⟩ := h _ _ _ _ default_graded deviationRatio_ether Number.tooLong
  rw [hbreaks] at hkept
  cases hkept

end CrossVenue
