import CrossVenue.Arbitrage.Solver
import CrossVenue.Proofs.Computation
import CrossVenue.Proofs.Number.Short
import Mathlib.Tactic.Linarith
import Mathlib.Tactic.Ring

/-!
# How large a round trip is sized

The closed form for the best size rounds both roots, their quotient and the percentage that is kept
down.  So a positive size stays on the near side of the point at which the fee-free prices of both pools
meet, which is a fact about squares of natural numbers:

* `optimalTradeSize_sized` : a positive size is `Sized` for its pools;
* `optimalTradeSize_nonpos` : there is no positive size unless the source is strictly cheaper;
* `Sized.reach_le`, `Sized.price_lt` : what being sized says about words and about prices.
-/

set_option autoImplicit false

namespace CrossVenue

/-- Are all three percentages of a policy between nothing and everything? -/
structure Policy.InRange (policy : Policy) : Prop where
  mild : 0 ≤ policy.mildPercent ∧ policy.mildPercent ≤ 100
  moderate : 0 ≤ policy.moderatePercent ∧ policy.moderatePercent ≤ 100
  severe : 0 ≤ policy.severePercent ∧ policy.severePercent ≤ 100

theorem Policy.InRange.keptPercent {policy : Policy} (hp : policy.InRange) (ratio : Int) :
    0 ≤ policy.keptPercent ratio ∧ policy.keptPercent ratio ≤ 100 := by
  rcases policy.keptPercent_cases ratio with h | h | h <;> rw [h]
  · exact hp.mild
  · exact hp.moderate
  · exact hp.severe

/-- A percentage of a size, truncated, lies between nothing and the size, on either side of nothing. -/
theorem tdiv_percent_mem {size percent : Int} (h0 : 0 ≤ percent) (h100 : percent ≤ 100) :
    (0 ≤ size → 0 ≤ (size * percent).tdiv 100 ∧ (size * percent).tdiv 100 ≤ size) ∧
      (size ≤ 0 → size ≤ (size * percent).tdiv 100 ∧ (size * percent).tdiv 100 ≤ 0) := by
  have hnonneg : ∀ {n : Int}, 0 ≤ n → 0 ≤ (n * percent).tdiv 100 ∧ (n * percent).tdiv 100 ≤ n := by
    intro n hn
    have hpart : 0 ≤ n * percent := Int.mul_nonneg hn h0
    have hle : n * percent ≤ n * 100 := Int.mul_le_mul_of_nonneg_left h100 hn
    rw [Int.tdiv_eq_ediv_of_nonneg hpart]
    omega
  refine ⟨hnonneg, fun hsize => ?_⟩
  -- truncation treats both sides of nothing alike
  have hneg := hnonneg (Int.neg_nonneg.2 hsize)
  rw [Int.neg_mul, Int.neg_tdiv] at hneg
  omega

/-- What the size `x` of a round trip does not exceed: the point at which prices meet, and words. -/
structure Sized (source target : Pool) (x : Nat) : Prop where
  size_pos : 0 < x
  sourceA_pos : 0 < source.reserveA
  sourceB_pos : 0 < source.reserveB
  targetA_pos : 0 < target.reserveA
  targetB_pos : 0 < target.reserveB
  source_le : source.reserveA * source.reserveB ≤ maxWord
  target_le : target.reserveA * target.reserveB ≤ maxWord
  cross_le : source.reserveA * target.reserveB * feeScale ≤ maxWord
  /-- The price after the fee-free round trip has not passed the point at which both prices meet. -/
  square_le :
    (source.reserveA * target.reserveB + (source.reserveB + target.reserveB) * x) ^ 2 ≤
      source.reserveA * source.reserveB * (target.reserveA * target.reserveB)

/-! ## The closed form -/

theorem squareRoot_natCast (n : Nat) : squareRoot n = .ok (Number.root n) := by
  have hn : ¬ ((n : Int) < 0) := by omega
  simp [squareRoot, hn]

theorem requireReserves_eq_ok_iff {p : Pool} :
    requireReserves p = .ok () ↔ 0 < p.reserveA ∧ 0 < p.reserveB := by
  unfold requireReserves rejectAt Pool.hasReserves
  split
  · rename_i h
    simp only [ne_eq, Bool.and_eq_true, decide_eq_true_eq] at h
    simp only [true_iff]
    omega
  · rename_i h
    simp only [ne_eq, Bool.and_eq_true, decide_eq_true_eq] at h
    simp only [reduceCtorEq, false_iff]
    omega

/-- The closed form on reserves, and the words that it computes. -/
theorem maxProfitPoint_eq_ok_iff {a1 b1 a2 b2 : Nat} {x : Int} :
    maxProfitPoint a1 b1 a2 b2 = .ok x ↔
      b1 + b2 ≠ 0 ∧ a1 * b1 ≤ maxWord ∧ a2 * b2 ≤ maxWord ∧
        (minWord ≤ (Number.root (a1 * b1) : Int) * Number.root (a2 * b2) - a1 * b2 ∧
          (Number.root (a1 * b1) : Int) * Number.root (a2 * b2) - a1 * b2 ≤ maxWord) ∧
        x = ((Number.root (a1 * b1) : Int) * Number.root (a2 * b2) - a1 * b2).tdiv (b1 + b2) := by
  have hm : minWord ≤ 0 := by decide
  unfold maxProfitPoint
  split
  · rename_i h
    simp only [reject, reduceCtorEq, false_iff]
    omega
  · rename_i h
    simp only [bind_eq_ok_iff, checkWord_eq_ok_iff, Except.ok.injEq]
    constructor
    · rintro ⟨_, ⟨rfl, -, h1⟩, r1, hr1, _, ⟨rfl, -, h2⟩, r2, hr2, _, ⟨rfl, h3⟩, rfl⟩
      rw [← Int.natCast_mul, squareRoot_natCast, Except.ok.injEq] at hr1 hr2
      subst hr1 hr2
      exact ⟨by omega, by exact_mod_cast h1, by exact_mod_cast h2, h3, rfl⟩
    · rintro ⟨-, h1, h2, h3, rfl⟩
      refine ⟨_, ⟨rfl, ?_, by exact_mod_cast h1⟩, Number.root (a1 * b1), ?_, _,
        ⟨rfl, ?_, by exact_mod_cast h2⟩, Number.root (a2 * b2), ?_, _, ⟨rfl, h3⟩, rfl⟩
      · exact hm.trans (by positivity)
      · rw [← Int.natCast_mul, squareRoot_natCast]
      · exact hm.trans (by positivity)
      · rw [← Int.natCast_mul, squareRoot_natCast]

/-- The closed form is a quotient of a word. -/
theorem natAbs_maxProfitPoint_le {a1 b1 a2 b2 : Nat} {x : Int}
    (h : maxProfitPoint a1 b1 a2 b2 = .ok x) : x.natAbs ≤ maxWord + 1 := by
  obtain ⟨-, -, -, hnumerator, rfl⟩ := maxProfitPoint_eq_ok_iff.1 h
  have hw : minWord = -(maxWord : Int) - 1 := rfl
  rw [Int.natAbs_tdiv]
  exact (Nat.div_le_self _ _).trans (by omega)

/-- The deviation of two pools as natural numbers, and the word that it computes. -/
theorem deviationRatio_eq_ok_iff {source target : Pool} {ratio : Int} :
    deviationRatio source target = .ok ratio ↔
      source.reserveB * target.reserveA ≠ 0 ∧
        source.reserveA * target.reserveB * feeScale ≤ maxWord ∧
        ratio = (source.reserveA * target.reserveB * feeScale /
          (source.reserveB * target.reserveA) : Nat) - feeScale := by
  have hm : minWord ≤ 0 := by decide
  have hden : (source.reserveB * target.reserveA : Int) = (source.reserveB * target.reserveA : Nat) :=
    (Int.natCast_mul _ _).symm
  have hnum : (source.reserveA * target.reserveB * feeScale : Int) =
      (source.reserveA * target.reserveB * feeScale : Nat) := by
    rw [Int.natCast_mul, Int.natCast_mul]
  unfold deviationRatio
  simp only [hden, hnum]
  by_cases hzero : source.reserveB * target.reserveA = 0
  · simp [hzero, reject]
  · rw [if_neg (by omega)]
    simp only [bind_eq_ok_iff, checkWord_eq_ok_iff, Except.ok.injEq]
    constructor
    · rintro ⟨_, ⟨rfl, -, hword⟩, rfl⟩
      exact ⟨hzero, by omega, rfl⟩
    · rintro ⟨-, hword, rfl⟩
      exact ⟨_, ⟨rfl, by omega, by omega⟩, rfl⟩

/-- A deviation comes from words, so it can be written. -/
theorem isWritable_of_deviationRatio {source target : Pool} {ratio : Int}
    (h : deviationRatio source target = .ok ratio) : Number.isWritable ratio = true := by
  obtain ⟨-, hword, rfl⟩ := deviationRatio_eq_ok_iff.1 h
  have hquotient := (Nat.div_le_self _ (source.reserveB * target.reserveA)).trans hword
  have hscale : feeScale ≤ maxWord := by decide
  generalize source.reserveA * target.reserveB * feeScale / (source.reserveB * target.reserveA) = q at *
  have hwide := Number.maxWord_le_widest
  exact Number.isWritable_of_natAbs_le (by omega)

/-- **What is kept of a size**: its percentage, if both can be written. -/
theorem Policy.apply_eq {source target : Pool} {ratio : Int}
    (h : deviationRatio source target = .ok ratio) (policy : Policy) (raw : Int) :
    policy.apply raw source target =
      if Number.isWritable (policy.keptPercent ratio) && Number.isWritable raw then
        .ok ((raw * policy.keptPercent ratio).tdiv 100)
      else .error (.broken .badText) := by
  have hline : (correctionLine ratio [policy.keptPercent ratio] [raw]).isWritable =
      (Number.isWritable (policy.keptPercent ratio) && Number.isWritable raw) := by
    simp [correctionLine, isWritable_of_deviationRatio h]
  unfold Policy.apply
  rw [lift_bind_of_ok h, requireWritable_bind, hline]
  rfl

/-- A percentage between nothing and everything is kept of every size that can be written. -/
theorem Policy.InRange.apply_eq {policy : Policy} (hp : policy.InRange) {source target : Pool}
    {ratio : Int} (h : deviationRatio source target = .ok ratio) (raw : Int) :
    policy.apply raw source target =
      if Number.isWritable raw then .ok ((raw * policy.keptPercent ratio).tdiv 100)
      else .error (.broken .badText) := by
  have hkept := hp.keptPercent ratio
  have hall : 100 ≤ Number.widest := by decide
  have hpercent : Number.isWritable (policy.keptPercent ratio) = true :=
    Number.isWritable_of_natAbs_le (by omega)
  rw [Policy.apply_eq h, hpercent, Bool.true_and]

theorem Policy.apply_eq_ok_iff {policy : Policy} {source target : Pool} {raw x : Int} :
    policy.apply raw source target = .ok x ↔
      ∃ ratio, deviationRatio source target = .ok ratio ∧
        Number.isWritable (policy.keptPercent ratio) = true ∧ Number.isWritable raw = true ∧
        x = (raw * policy.keptPercent ratio).tdiv 100 := by
  constructor
  · intro hx
    obtain ⟨ratio, h, -⟩ := bind_eq_ok_iff.1 hx
    rw [lift_eq_ok_iff] at h
    rw [Policy.apply_eq h] at hx
    split at hx
    · rename_i hwritten
      obtain ⟨hpercent, hraw⟩ := Bool.and_eq_true_iff.1 hwritten
      exact ⟨ratio, h, hpercent, hraw, (Except.ok.inj hx).symm⟩
    · cases hx
  · rintro ⟨ratio, h, hpercent, hraw, rfl⟩
    rw [Policy.apply_eq h, hpercent, hraw]
    rfl

/-- **The correction keeps part of a size**, on either side of nothing. -/
theorem Policy.InRange.apply_mem {policy : Policy} (hp : policy.InRange) {source target : Pool}
    {raw x : Int} (h : policy.apply raw source target = .ok x) :
    (0 ≤ raw → 0 ≤ x ∧ x ≤ raw) ∧ (raw ≤ 0 → raw ≤ x ∧ x ≤ 0) := by
  obtain ⟨ratio, -, -, -, rfl⟩ := Policy.apply_eq_ok_iff.1 h
  obtain ⟨hk0, hk1⟩ := hp.keptPercent ratio
  exact tdiv_percent_mem hk0 hk1

/-- A correction never makes a size larger in magnitude. -/
theorem Policy.InRange.natAbs_apply_le {policy : Policy} (hp : policy.InRange) {source target : Pool}
    {raw x : Int} (h : policy.apply raw source target = .ok x) : x.natAbs ≤ raw.natAbs := by
  obtain ⟨hnonneg, hnonpos⟩ := hp.apply_mem h
  omega

/-- A positive part is kept of a positive size only. -/
theorem Policy.InRange.apply_le {policy : Policy} (hp : policy.InRange) {source target : Pool}
    {raw x : Int} (h : policy.apply raw source target = .ok x) :
    (0 < x → 0 < raw ∧ x ≤ raw) ∧ source.reserveA * target.reserveB * feeScale ≤ maxWord := by
  obtain ⟨hnonneg, hnonpos⟩ := hp.apply_mem h
  obtain ⟨ratio, hr, -⟩ := Policy.apply_eq_ok_iff.1 h
  exact ⟨fun hx => by omega, (deviationRatio_eq_ok_iff.1 hr).2.1⟩

/-- The parts that a corrected size is made of. -/
theorem optimalTradeSize_eq_ok {policy : Policy} {source target : Pool} {x : Int}
    (h : optimalTradeSize policy source target = .ok x) :
    (0 < source.reserveA ∧ 0 < source.reserveB) ∧ (0 < target.reserveA ∧ 0 < target.reserveB) ∧
      ∃ raw, maxProfitPoint source.reserveA source.reserveB target.reserveA target.reserveB =
        .ok raw ∧ policy.apply raw source target = .ok x := by
  unfold optimalTradeSize at h
  simp only [bind_eq_ok_iff, lift_eq_ok_iff] at h
  obtain ⟨⟨⟩, hs, ⟨⟩, ht, raw, hraw, ha⟩ := h
  exact ⟨requireReserves_eq_ok_iff.1 hs, requireReserves_eq_ok_iff.1 ht, raw, hraw, ha⟩

/-- A size is no longer than a word, whether it is positive or not. -/
theorem Policy.InRange.natAbs_size_le {policy : Policy} (hp : policy.InRange) {source target : Pool}
    {x : Int} (h : optimalTradeSize policy source target = .ok x) : x.natAbs ≤ maxWord + 1 := by
  obtain ⟨-, -, raw, hraw, happly⟩ := optimalTradeSize_eq_ok h
  exact (hp.natAbs_apply_le happly).trans (natAbs_maxProfitPoint_le hraw)

theorem isWritable_of_natAbs_le_word {x : Int} (h : x.natAbs ≤ maxWord + 1) :
    Number.isWritable x = true := Number.isWritable_of_natAbs_le (h.trans (by decide))

theorem root_mul_root_sq_le (m n : Nat) : (Number.root m * Number.root n) ^ 2 ≤ m * n := by
  have hm := (Number.root_spec m).1
  have hn := (Number.root_spec n).1
  calc (Number.root m * Number.root n) ^ 2
      = Number.root m * Number.root m * (Number.root n * Number.root n) := by ring
    _ ≤ m * n := Nat.mul_le_mul hm hn

theorem root_mul_root_le {m n bound : Nat} (hm : m ≤ bound) (hn : n ≤ bound) :
    Number.root m * Number.root n ≤ bound := by
  refine (Nat.pow_le_pow_iff_left (show (2 : Nat) ≠ 0 by decide)).1 ?_
  calc (Number.root m * Number.root n) ^ 2 ≤ m * n := root_mul_root_sq_le m n
    _ ≤ bound * bound := Nat.mul_le_mul hm hn
    _ = bound ^ 2 := (sq bound).symm

/-- **A positive best size is within reach**: no rounding on the way pushes it past the point at which the
fee-free prices meet. -/
theorem maxProfitPoint_reach {a1 b1 a2 b2 : Nat} {x : Int} (h : maxProfitPoint a1 b1 a2 b2 = .ok x)
    (hx : 0 < x) :
    (a1 * b2 + (b1 + b2) * x : Int) ≤ Number.root (a1 * b1) * Number.root (a2 * b2) := by
  obtain ⟨hz, -, -, -, rfl⟩ := maxProfitPoint_eq_ok_iff.1 h
  generalize (Number.root (a1 * b1) : Int) * Number.root (a2 * b2) = roots at *
  -- the quotient is positive, so it is the floor of a numerator that is not negative
  have hd : (0 : Int) < b1 + b2 := by omega
  have hnum : 0 ≤ roots - a1 * b2 := by
    by_contra hneg
    have ht := Int.tdiv_nonneg (a := -(roots - a1 * b2)) (by omega) hd.le
    rw [Int.neg_tdiv] at ht
    omega
  have hfloor := Int.mul_ediv_self_le (x := roots - a1 * b2) (k := (b1 + b2 : Int)) hd.ne'
  rw [Int.tdiv_eq_ediv_of_nonneg hnum]
  linarith

/-- **A positive size is sized**: what is kept of the best size is within reach too. -/
theorem optimalTradeSize_sized {policy : Policy} (hp : policy.InRange) {source target : Pool}
    {x : Int} (h : optimalTradeSize policy source target = .ok x) (hx : 0 < x) :
    Sized source target x.toNat := by
  obtain ⟨⟨ha1, hb1⟩, ⟨ha2, hb2⟩, raw, hraw, happly⟩ := optimalTradeSize_eq_ok h
  obtain ⟨-, hs, ht, -⟩ := maxProfitPoint_eq_ok_iff.1 hraw
  obtain ⟨hle, hcross⟩ := hp.apply_le happly
  obtain ⟨hpos, hle⟩ := hle hx
  obtain ⟨n, rfl⟩ : ∃ n : Nat, x = n := ⟨x.toNat, by omega⟩
  have hreach : source.reserveA * target.reserveB + (source.reserveB + target.reserveB) * n ≤
      Number.root (source.reserveA * source.reserveB) *
        Number.root (target.reserveA * target.reserveB) := by
    have hkept : (source.reserveB + target.reserveB : Int) * n ≤
        (source.reserveB + target.reserveB) * raw := Int.mul_le_mul_of_nonneg_left hle (by omega)
    have hraw := maxProfitPoint_reach hraw hpos
    zify
    linarith
  exact
    { size_pos := by omega
      sourceA_pos := ha1
      sourceB_pos := hb1
      targetA_pos := ha2
      targetB_pos := hb2
      source_le := hs
      target_le := ht
      cross_le := hcross
      square_le := (Nat.pow_le_pow_left hreach 2).trans (root_mul_root_sq_le _ _) }

namespace Sized

variable {source target : Pool} {x : Nat}

/-- Less than a size that is sized is sized too. -/
theorem mono {y : Nat} (h : Sized source target x) (hy : 0 < y) (hyx : y ≤ x) :
    Sized source target y :=
  { h with
    size_pos := hy
    square_le := by
      refine (Nat.pow_le_pow_left ?_ 2).trans h.square_le
      exact Nat.add_le_add_left (Nat.mul_le_mul_left _ hyx) _ }

/-- The fee-free reserve product of the round trip is a word. -/
theorem reach_le (h : Sized source target x) :
    source.reserveA * target.reserveB + (source.reserveB + target.reserveB) * x ≤ maxWord := by
  refine Nat.le_of_not_lt fun hlt => ?_
  have hsq := h.square_le
  have hprod := Nat.mul_le_mul h.source_le h.target_le
  have := Nat.pow_lt_pow_left hlt (show (2 : Nat) ≠ 0 by decide)
  nlinarith

/-- The input can be credited to the source. -/
theorem credit_le (h : Sized source target x) : source.reserveA + x ≤ maxWord := by
  have hr := h.reach_le
  have hs := h.source_le
  have hb := h.sourceB_pos
  have ht := h.targetB_pos
  nlinarith

/-- The source is strictly cheaper than the target. -/
theorem price_lt (h : Sized source target x) :
    source.reserveA * target.reserveB < target.reserveA * source.reserveB := by
  have hx := h.size_pos
  have hb := h.sourceB_pos
  have hsq := h.square_le
  have hpos : 0 < (source.reserveB + target.reserveB) * x := by positivity
  have hcross : source.reserveA * source.reserveB * (target.reserveA * target.reserveB) =
      source.reserveA * target.reserveB * (target.reserveA * source.reserveB) := by ring
  rw [hcross] at hsq
  generalize (source.reserveB + target.reserveB) * x = w at *
  generalize source.reserveA * target.reserveB = here at *
  by_contra hle
  have hm := Nat.mul_le_mul_left here (Nat.le_of_not_lt hle)
  nlinarith

end Sized

/-- **There is no positive size unless the source is strictly cheaper.** -/
theorem optimalTradeSize_nonpos {policy : Policy} (hp : policy.InRange) {source target : Pool}
    {x : Int} (h : optimalTradeSize policy source target = .ok x)
    (hprice : target.reserveA * source.reserveB ≤ source.reserveA * target.reserveB) : x ≤ 0 := by
  by_contra hx
  have hlt := (optimalTradeSize_sized hp h (by omega)).price_lt
  omega

end CrossVenue
