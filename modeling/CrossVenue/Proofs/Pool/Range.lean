import CrossVenue.Proofs.Pool.Run
import CrossVenue.Proofs.Reported

/-!
# Quotes within the range of words

A quote computes with unbounded integers and checks some of them against the range of signed words.  All
numbers of its formula are natural, and most of those that are not checked are smaller than one that is.
Two are not: the denominator, where the fee is taken from the input, and the product before the fee, where
a fee on the output takes everything.  A quote in which one of these leaves the range is zero.

* `Quotable.intermediates_le_iff` : which numbers of a quote that succeeds are words;
* `Overruns.output_eq_zero` : nothing comes out where a number is no word;
* `refuses_of_quote` : what is raised where nothing is quoted;
* `quote_in_range` : an overflow is refused, or else it is one of these two and the quote is zero;
* `overruns_are_quoted` : both are met.
-/

set_option autoImplicit false

namespace CrossVenue.Pool

variable {p : Pool} {d : Direction} {n : Nat}

/-- The numbers that the formula of a pool goes through for an input. -/
def intermediates (p : Pool) (d : Direction) (n : Nat) : List Nat :=
  let taken := p.effectiveInput d n
  match p.convention with
  | .preFee => [n * p.keptRate, p.reserveOut d * taken, p.reserveIn d + taken]
  | .postFee =>
    [p.reserveOut d * taken, p.reserveOut d * taken * p.keptRate, p.reserveIn d + taken,
      (p.reserveIn d + taken) * feeScale]
  | .other _ => []

/-- Is a number that no check covers out of the range of words? -/
def Overruns (p : Pool) (d : Direction) (n : Nat) : Prop :=
  match p.convention with
  | .preFee => maxWord < p.reserveIn d + p.effectiveInput d n
  | .postFee => p.keptRate = 0 ∧ maxWord < p.reserveOut d * p.effectiveInput d n
  | .other _ => False

/-- **Which numbers of a quote that succeeds are words**: all of them, unless an unchecked one overruns. -/
theorem Quotable.intermediates_le_iff (h : p.Quotable d n) :
    (∀ v ∈ p.intermediates d n, v ≤ maxWord) ↔ ¬ p.Overruns d n := by
  unfold Quotable at h
  unfold intermediates Overruns
  generalize p.effectiveInput d n = taken at *
  cases hc : p.convention with
  | preFee =>
    simp only [hc] at h
    obtain ⟨hkept, hnumerator, -⟩ := h
    simp only [List.forall_mem_cons, List.not_mem_nil, false_imp_iff, implies_true, and_true]
    constructor
    · rintro ⟨-, -, hdenominator⟩
      omega
    · intro hfits
      exact ⟨hkept, hnumerator, by omega⟩
  | postFee =>
    simp only [hc] at h
    obtain ⟨hnumerator, hdenominator, -⟩ := h
    have hsum : p.reserveIn d + taken ≤ (p.reserveIn d + taken) * feeScale :=
      Nat.le_mul_of_pos_right _ (by decide)
    simp only [List.forall_mem_cons, List.not_mem_nil, false_imp_iff, implies_true, and_true]
    constructor
    · rintro ⟨hproduct, -⟩ ⟨-, hover⟩
      omega
    · intro hfits
      refine ⟨?_, hnumerator, hsum.trans hdenominator, hdenominator⟩
      -- a rate that keeps something makes the checked product at least as great
      rcases Nat.eq_zero_or_pos p.keptRate with hzero | hpos
      · by_contra hover
        exact hfits ⟨hzero, by omega⟩
      · exact (Nat.le_mul_of_pos_right _ hpos).trans hnumerator
  | other name =>
    simp only [hc] at h

/-- **Nothing comes out where a number overruns.** -/
theorem Overruns.output_eq_zero (h : p.Overruns d n) (hq : p.Quotable d n) : p.output d n = 0 := by
  have hcurve : p.curveFormula d (p.effectiveInput d n) = 0 := by
    unfold Quotable at hq
    unfold Overruns at h
    unfold curveFormula
    generalize p.effectiveInput d n = taken at *
    cases hc : p.convention with
    | preFee =>
      simp only [hc] at h hq ⊢
      exact Nat.div_eq_of_lt (Nat.lt_of_le_of_lt hq.2.1 h)
    | postFee =>
      simp only [hc] at h ⊢
      rw [h.1, Nat.mul_zero, Nat.zero_div]
    | other name =>
      simp only [hc] at h
  have hle := p.roundedOutput_le d 0
  rw [output, hcurve]
  omega

/-! ## Rejections -/

/-- Is a rejection one of pool math, with a message that can be written just if a test is passed? -/
structure OfPoolMath (written : Bool) (r : Rejection) : Prop where
  kind : r.kindName = "PoolMathError"
  isWritable_eq : r.isWritable = written

theorem ofPoolMath_pool (f : PoolFault) (venue : Text) :
    OfPoolMath f.sentence.isWritable ⟨.pool f, venue⟩ where
  kind := rfl
  isWritable_eq := by
    unfold Rejection.isWritable Rejection.sentence
    split <;> simp [Cause.sentence, Cause.omitted]

theorem checkNatural_failsOnly (label : Text) (v : Nat) :
    FailsOnly (OfPoolMath (Number.isWritable v)) (checkNatural label v) := by
  unfold checkNatural
  split
  · have hfault := ofPoolMath_pool (.overflow label v) ""
    simp only [PoolFault.sentence, Sentence.isWritable_cons, Piece.isWritable_text,
      Piece.isWritable_number, Sentence.isWritable_nil, Bool.true_and, Bool.and_true] at hfault
    exact .of_error hfault
  · exact .of_ok rfl

/-- An overflow of a number that can be written. -/
theorem checkNatural_failsOnly_of_isWritable (label : Text) {v : Nat}
    (hv : Number.isWritable v = true) : FailsOnly (OfPoolMath true) (checkNatural label v) :=
  hv ▸ checkNatural_failsOnly label v

theorem curveOutput_failsOnly (p : Pool) (numerator denominator : Nat) :
    FailsOnly (OfPoolMath true) (p.curveOutput numerator denominator) := by
  unfold curveOutput
  split
  · exact .of_error (ofPoolMath_pool .emptyPool p.venue)
  · exact .of_ok rfl

theorem rawQuote_failsOnly (p : Pool) (d : Direction) {x : Nat} (hx : x ≤ maxWord) :
    FailsOnly (OfPoolMath true) (p.rawQuote d x) := by
  have hcheck := fun label v hv => @checkNatural_failsOnly_of_isWritable label v hv
  unfold rawQuote
  split
  · refine (hcheck _ _ (isWritable_outputFeeNumerator hx p d)).bind fun numerator _ => ?_
    refine (hcheck _ _ (isWritable_outputFeeDenominator hx p d)).bind fun denominator _ => ?_
    exact p.curveOutput_failsOnly numerator denominator
  · refine (hcheck _ _ (isWritable_kept hx p)).bind fun kept h => ?_
    obtain ⟨rfl, hkept⟩ := checkNatural_eq_ok_iff.1 h
    refine (hcheck _ _ (isWritable_inputFeeNumerator hkept p d)).bind fun numerator _ => ?_
    exact p.curveOutput_failsOnly numerator _
  · rename_i name _
    exact .of_error (ofPoolMath_pool (.unknownConvention [.text name]) p.venue)

/-- All rejections of a quote are of one kind, and what they show can be written if the size can. -/
theorem quote_failsOnly (p : Pool) (x : Int) (d : Direction) :
    FailsOnly (OfPoolMath (Number.isWritable x)) (p.quote x d) := by
  unfold quote
  split
  · have hfault := ofPoolMath_pool (.negativeTrade x) p.venue
    simp only [PoolFault.sentence, Sentence.isWritable_cons, Piece.isWritable_text,
      Piece.isWritable_number, Sentence.isWritable_nil, Bool.true_and, Bool.and_true] at hfault
    exact .of_error hfault
  · rename_i hx
    obtain ⟨n, rfl⟩ : ∃ n : Nat, x = n := ⟨x.toNat, by omega⟩
    refine (checkNatural_failsOnly _ n).bind fun size h => ?_
    obtain ⟨rfl, hsize⟩ := checkNatural_eq_ok_iff.1 h
    rw [Number.isWritable_of_le_maxWord hsize]
    exact (p.rawQuote_failsOnly d hsize).bind fun _ _ => .of_ok rfl

/-- What a quote raises: an error of pool math, or a breakdown where the size is too long to be shown. -/
structure Refuses (p : Pool) (x : Int) (d : Direction) : Prop where
  rejected : Number.isWritable x = true →
    ∃ r : Rejection, (liftM (p.quote x d) : Attempt Nat) = .error (.rejected r) ∧
      r.kindName = "PoolMathError"
  broken : Number.isWritable x = false →
    (liftM (p.quote x d) : Attempt Nat) = .error (.broken .badText)

theorem refuses_of_quote {x : Int} {e : Rejection} (h : p.quote x d = .error e) :
    p.Refuses x d := by
  have he := p.quote_failsOnly x d e h
  have hfailure : e.failure = if Number.isWritable x then .rejected e else .broken .badText := by
    rw [Rejection.failure, he.isWritable_eq]
  have hlift : (liftM (p.quote x d) : Attempt Nat) = .error e.failure :=
    lift_eq_error_iff.2 ⟨e, h, rfl⟩
  rw [hfailure] at hlift
  constructor
  · intro hx
    rw [hx] at hlift
    exact ⟨e, hlift, he.kind⟩
  · intro hx
    rw [hx] at hlift
    exact hlift

/-- **An overflow is rejected, or it is an unchecked one and the quote is zero.**  All numbers of a quote
that succeeds are words unless an unchecked one overruns, and then nothing comes out; a size at which some
number is no word is refused unless an unchecked one overruns; and whatever is refused is refused with an
error of one kind, if its message can show the size. -/
theorem quote_in_range (p : Pool) (d : Direction) :
    (∀ x y, p.quote x d = .ok y →
      ∃ n : Nat, x = n ∧ ((∀ v ∈ p.intermediates d n, v ≤ maxWord) ↔ ¬ p.Overruns d n) ∧
        (p.Overruns d n → y = 0)) ∧
    (∀ n : Nat, (∃ v ∈ p.intermediates d n, maxWord < v) →
      p.Refuses n d ∨ p.Overruns d n ∧ p.quote n d = .ok 0) ∧
    (∀ x e, p.quote x d = .error e → p.Refuses x d) := by
  refine ⟨?_, ?_, fun x e he => refuses_of_quote he⟩
  · intro x y hy
    obtain ⟨n, hx, -, hq, hyn⟩ := quote_eq_ok_iff.1 hy
    refine ⟨n, hx, hq.intermediates_le_iff, ?_⟩
    intro hover
    rw [hyn, hover.output_eq_zero hq]
  · rintro n ⟨v, hv, hlt⟩
    cases hquote : p.quote n d with
    | error e => exact .inl (refuses_of_quote hquote)
    | ok y =>
      obtain ⟨m, hm, -, hq, hy⟩ := quote_eq_ok_iff.1 hquote
      obtain rfl : n = m := Int.natCast_inj.1 hm
      have hover : p.Overruns d n := by
        by_contra hnot
        have hle := hq.intermediates_le_iff.2 hnot v hv
        omega
      rw [hy, hover.output_eq_zero hq]
      exact .inr ⟨hover, rfl⟩

/-- A pool that holds the greatest word of asset A, with its fee on the input. -/
def brimmingSample : Pool :=
  { sample with convention := .preFee, reserveA := maxWord, reserveA_le := Nat.le_refl maxWord }

/-- A pool that gives out of the greatest word of asset B, with a fee that takes everything. -/
def confiscatingSample : Pool :=
  { sample with
    reserveB := maxWord, feeRate := feeScale, reserveB_le := Nat.le_refl maxWord,
    feeRate_le := Nat.le_refl feeScale }

/-- Are all numbers of a quote words, in every pool that takes its fee in a given way? -/
def QuotesInRange (c : FeeConvention) : Prop :=
  ∀ (p : Pool) (d : Direction) (n y : Nat), p.convention = c → p.quote n d = .ok y →
    ∀ v ∈ p.intermediates d n, v ≤ maxWord

/-- **Both overruns are quoted**, one for each side of the fee. -/
theorem overruns_are_quoted : ¬ QuotesInRange .preFee ∧ ¬ QuotesInRange .postFee := by
  constructor
  · intro hall
    have hquote : brimmingSample.quote (1000000 : Nat) .aToB = .ok 0 := by decide +kernel
    have hsum := hall brimmingSample .aToB 1000000 0 rfl hquote (maxWord + 997500) (by decide +kernel)
    omega
  · intro hall
    have hquote : confiscatingSample.quote (2 : Nat) .aToB = .ok 0 := by decide +kernel
    have hproduct := hall confiscatingSample .aToB 2 0 rfl hquote (maxWord * 2) (by decide +kernel)
    exact absurd hproduct (by decide)

end CrossVenue.Pool
