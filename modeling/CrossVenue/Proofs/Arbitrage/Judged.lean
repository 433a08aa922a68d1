import CrossVenue.Arbitrage.Route
import CrossVenue.Proofs.Arbitrage.Plan
import CrossVenue.Proofs.Number.Short
import CrossVenue.Proofs.Reported
import CrossVenue.Venue.Amount

/-!
# What is rejected while a round trip is planned

All numbers that stand in the messages of rejected quotes, rates and sizes are words, products of a few
words, or numbers that were given; so each of these rejections can be reported.

* `Pool.Nameable` : what the messages about a pool need of it;
* `Pool.Nameable.judged_quote`, `answered_solve`, `judged_selectRoute` : quotes, sizes and routes.
-/

set_option autoImplicit false

namespace CrossVenue

/-- A pool whose venue and convention can stand in a message. -/
structure Pool.Nameable (p : Pool) : Prop where
  venue : p.venue.isPlain = true
  convention : p.convention.name.isPlain = true

/-! ## Words and amounts -/

theorem judged_checkWord {label : Text} (hl : label.isPlain = true) {v : Int}
    (hv : Number.isWritable v = true) : Judged (checkWord label v) := by
  unfold checkWord
  split
  · exact judged_reject (by simp [PoolFault.sentence, hl, hv])
  · exact .of_ok rfl

theorem judged_checkNatural {label : Text} (hl : label.isPlain = true) {v : Nat}
    (hv : Number.isWritable v = true) : Judged (checkNatural label v) := by
  unfold checkNatural
  split
  · exact judged_reject (by simp [PoolFault.sentence, hl, hv])
  · exact .of_ok rfl

theorem judged_squareRoot {v : Int} (hv : Number.isWritable v = true) : Judged (squareRoot v) := by
  unfold squareRoot
  split
  · exact judged_reject (by simp [PoolFault.sentence, hv])
  · exact .of_ok rfl

theorem judged_truncatedQuotient (n d : Int) : Judged (truncatedQuotient n d) := by
  unfold truncatedQuotient
  split
  · exact judged_reject (by simp [PoolFault.sentence])
  · exact .of_ok rfl

theorem judged_checkAmount {venue label : Text} (hv : venue.isPlain = true)
    (hl : label.isPlain = true) {amount : Int} (ha : Number.isWritable amount = true) {upper : Nat}
    (hu : upper ≤ maxWord) : Judged (checkAmount venue label amount upper) := by
  have hu' := Number.isWritable_of_le_maxWord hu
  unfold checkAmount
  split
  · exact judged_rejectAt hv (by simp [PoolFault.sentence, hl, ha, hu'])
  · exact .of_ok rfl

/-! ## Pools -/

namespace Pool

namespace Nameable

variable {p : Pool} (hp : p.Nameable) (d : Direction)

include hp

theorem judged_curveOutput (numerator denominator : Nat) :
    Judged (p.curveOutput numerator denominator) := by
  unfold curveOutput
  split
  · exact judged_rejectAt hp.venue (by simp [PoolFault.sentence])
  · exact .of_ok rfl

theorem judged_outputFeeQuote {x : Nat} (hx : x ≤ maxWord) : Judged (p.outputFeeQuote d x) := by
  unfold outputFeeQuote
  refine (judged_checkNatural rfl (isWritable_outputFeeNumerator hx p d)).bind fun _ _ => ?_
  refine (judged_checkNatural rfl (isWritable_outputFeeDenominator hx p d)).bind fun _ _ => ?_
  exact hp.judged_curveOutput _ _

theorem judged_inputFeeQuote {x : Nat} (hx : x ≤ maxWord) : Judged (p.inputFeeQuote d x) := by
  unfold inputFeeQuote
  refine (judged_checkNatural rfl (isWritable_kept hx p)).bind fun kept h => ?_
  obtain ⟨rfl, hword⟩ := checkNatural_eq_ok_iff.1 h
  refine (judged_checkNatural rfl (isWritable_inputFeeNumerator hword p d)).bind fun _ _ => ?_
  exact hp.judged_curveOutput _ _

theorem judged_rawQuote {x : Nat} (hx : x ≤ maxWord) : Judged (p.rawQuote d x) := by
  have hname := hp.convention
  unfold rawQuote
  split
  · exact hp.judged_outputFeeQuote d hx
  · exact hp.judged_inputFeeQuote d hx
  · rename_i name hc
    rw [hc] at hname
    exact judged_rejectAt hp.venue (by simpa [PoolFault.sentence, FeeConvention.name] using hname)

theorem judged_quote {x : Int} (hx : Number.isWritable x = true) : Judged (p.quote x d) := by
  unfold quote
  split
  · exact judged_rejectAt hp.venue (by simp [PoolFault.sentence, hx])
  · refine (judged_checkNatural rfl (Number.isWritable_toNat hx)).bind fun n hn => ?_
    obtain ⟨rfl, hword⟩ := checkNatural_eq_ok_iff.1 hn
    exact (hp.judged_rawQuote d hword).bind fun _ _ => .of_ok rfl

theorem judged_spotRate (multiplier : Int) : Judged (p.spotRate multiplier) := by
  unfold spotRate
  split
  · exact judged_rejectAt hp.venue (by simp [PoolFault.sentence])
  · exact judged_truncatedQuotient _ _

theorem judged_requireReserves : Judged (requireReserves p) := by
  have ha := Number.isWritable_of_le_maxWord p.reserveA_le
  have hb := Number.isWritable_of_le_maxWord p.reserveB_le
  unfold requireReserves
  split
  · exact .of_ok rfl
  · exact judged_rejectAt hp.venue (by simp [PoolFault.sentence, ha, hb])

end Nameable

end Pool

/-! ## Routes -/

theorem judged_ratedFrom (n : Nat) {pools : List Pool} (h : ∀ p ∈ pools, p.Nameable) :
    Judged (ratedFrom n pools) := by
  induction pools generalizing n with
  | nil => exact .of_ok rfl
  | cons p pools ih =>
    rw [List.forall_mem_cons] at h
    unfold ratedFrom
    refine (h.1.judged_spotRate _).bind fun _ _ => ?_
    exact (ih (n + 1) h.2).bind fun _ _ => .of_ok rfl

theorem judged_selectRoute {pools : List Pool} (h : ∀ p ∈ pools, p.Nameable) :
    Judged (selectRoute pools) := by
  unfold selectRoute
  split
  · rename_i hfew
    have hcount : pools.length ≤ maxWord := Nat.le_trans (Nat.le_of_lt hfew) (by decide)
    exact judged_reject (by simp [PoolFault.sentence, Number.isWritable_of_le_maxWord hcount])
  · refine (judged_ratedFrom 0 h).bind fun rated _ => ?_
    split
    · have hzero := Number.isWritable_of_le_maxWord (Nat.zero_le maxWord)
      exact judged_reject (by simpa [PoolFault.sentence] using hzero)
    · exact .of_ok rfl

/-! ## Sizes -/

theorem answered_holdFor {reason : NoTradeReason} (h : reason.sentence.isWritable = true)
    (optimal projected : Int) : Answered (holdFor reason optimal projected) :=
  (answered_requireWritable h).bind fun _ _ => .of_ok rfl

theorem Number.isWritable_mul {m n : Nat} (hm : m ≤ maxWord) (hn : n ≤ maxWord) :
    isWritable (m * n : Int) = true := by
  have hwide : maxWord * maxWord ≤ widest := by decide
  rw [← Int.natCast_mul]
  exact isWritable_of_le ((Nat.mul_le_mul hm hn).trans hwide)

theorem judged_maxProfitPoint {a1 b1 a2 b2 : Nat} (ha1 : a1 ≤ maxWord) (hb1 : b1 ≤ maxWord)
    (ha2 : a2 ≤ maxWord) (hb2 : b2 ≤ maxWord) : Judged (maxProfitPoint a1 b1 a2 b2) := by
  have h1 := Number.isWritable_mul ha1 hb1
  have h2 := Number.isWritable_mul ha2 hb2
  have hcross : a1 * b2 ≤ Number.widest :=
    (Nat.mul_le_mul ha1 hb2).trans (by decide)
  unfold maxProfitPoint
  split
  · exact judged_reject (by simp [PoolFault.sentence])
  refine (judged_checkWord rfl h1).bind fun m hm => ?_
  obtain ⟨rfl, -, hm⟩ := checkWord_eq_ok_iff.1 hm
  refine (judged_squareRoot h1).bind fun r1 hr1 => ?_
  refine (judged_checkWord rfl h2).bind fun n hn => ?_
  obtain ⟨rfl, -, hn⟩ := checkWord_eq_ok_iff.1 hn
  refine (judged_squareRoot h2).bind fun r2 hr2 => ?_
  refine (judged_checkWord rfl ?_).bind fun _ _ => .of_ok rfl
  -- the numerator is a difference of two numbers that are not negative
  rw [← Int.natCast_mul, squareRoot_natCast, Except.ok.injEq] at hr1 hr2
  subst hr1 hr2
  have hroots : Number.root (a1 * b1) * Number.root (a2 * b2) ≤ Number.widest :=
    (root_mul_root_le (by exact_mod_cast hm) (by exact_mod_cast hn)).trans Number.maxWord_le_widest
  rw [← Int.natCast_mul, ← Int.natCast_mul]
  exact Number.isWritable_of_natAbs_le (by omega)

theorem judged_deviationRatio (source target : Pool) : Judged (deviationRatio source target) := by
  have hnumerator : source.reserveA * target.reserveB * feeScale ≤ Number.widest :=
    Nat.mul_le_mul_right _ (Nat.mul_le_mul source.reserveA_le target.reserveB_le)
  have hwritable : Number.isWritable (source.reserveA * target.reserveB * feeScale : Int) = true := by
    exact_mod_cast Number.isWritable_of_le hnumerator
  unfold deviationRatio
  simp only
  split
  · exact judged_reject (by simp [PoolFault.sentence])
  · exact (judged_checkWord rfl hwritable).bind fun _ _ => .of_ok rfl

theorem answered_apply {policy : Policy} (hp : policy.InRange) {source target : Pool} {raw : Int}
    (hraw : Number.isWritable raw = true) : Answered (policy.apply raw source target) := by
  have hdeviation := (judged_deviationRatio source target).lift
  cases h : deviationRatio source target with
  | error r =>
    rw [h] at hdeviation
    rw [Policy.apply, h]
    exact hdeviation.bind fun _ hok => by cases hok
  | ok ratio =>
    rw [hp.apply_eq h, if_pos hraw]
    exact .of_ok rfl

section

variable {source target : Pool} (hs : source.Nameable) (ht : target.Nameable)

include hs ht

theorem answered_optimalTradeSize {policy : Policy} (hp : policy.InRange) :
    Answered (optimalTradeSize policy source target) := by
  unfold optimalTradeSize
  refine hs.judged_requireReserves.lift.bind fun _ _ => ?_
  refine ht.judged_requireReserves.lift.bind fun _ _ => ?_
  refine (judged_maxProfitPoint source.reserveA_le source.reserveB_le target.reserveA_le
    target.reserveB_le).lift.bind fun raw hraw => ?_
  exact answered_apply hp
    (isWritable_of_natAbs_le_word (natAbs_maxProfitPoint_le (lift_eq_ok_iff.1 hraw)))

theorem judged_roundTrip {x : Int} (hx : Number.isWritable x = true) :
    Judged (roundTrip source target x) := by
  unfold roundTrip
  refine (hs.judged_quote _ hx).bind fun first hfirst => ?_
  have hword := Number.isWritable_of_le_maxWord (Pool.quote_le hfirst)
  exact (ht.judged_quote _ hword).bind fun _ _ => .of_ok rfl

theorem answered_sizeForBalance {optimal : Int} (hopt : Number.isWritable optimal = true)
    (projected balance : Int) {minProfit : Int} (hleast : Number.isWritable minProfit = true) :
    Answered (sizeForBalance source target optimal projected balance minProfit) := by
  unfold sizeForBalance
  simp only
  split
  · exact answered_holdFor rfl _ _
  · have hx := isWritable_of_le (by omega) (Int.min_le_left optimal balance) hopt
    refine (judged_roundTrip hs ht hx).lift.bind fun ⟨first, second⟩ htrip => ?_
    have htrip := lift_eq_ok_iff.1 htrip
    obtain ⟨h0, -, hsecond⟩ := roundTrip_words htrip
    simp only
    split
    · refine answered_holdFor ?_ _ _
      simp [NoTradeReason.sentence, isWritable_gain h0 hsecond hx, hleast]
    · refine (answered_requireWritable ?_).bind fun _ _ => .of_ok rfl
      rw [executedLine_isWritable htrip, hx]

/-- **Whatever a round trip is rejected for can be reported**, if the profit asked for can be written: a
size is a word then, and so is what is said of it. -/
theorem answered_solve {policy : Policy} (hp : policy.InRange) (balance : Int) {minProfit : Int}
    (hleast : Number.isWritable minProfit = true) :
    Answered (solve policy source target balance minProfit) := by
  unfold solve
  refine (answered_optimalTradeSize hs ht hp).bind fun optimal hopt => ?_
  have hx := isWritable_of_natAbs_le_word (hp.natAbs_size_le hopt)
  split
  · refine (answered_requireWritable ?_).bind fun _ _ => answered_holdFor rfl _ _
    simp [unprofitableLine, hx]
  · refine (judged_roundTrip hs ht hx).lift.bind fun ⟨first, second⟩ htrip => ?_
    have htrip := lift_eq_ok_iff.1 htrip
    obtain ⟨h0, -, hsecond⟩ := roundTrip_words htrip
    refine (answered_requireWritable ?_).bind fun _ _ => ?_
    · rw [estimateLine_isWritable htrip, hx]
    split
    · refine answered_holdFor ?_ _ _
      simp [NoTradeReason.sentence, isWritable_gain h0 hsecond hx, hleast]
    · exact answered_sizeForBalance hs ht hx _ _ hleast

end

end CrossVenue
