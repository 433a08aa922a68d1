import CrossVenue.Proofs.Pool.Dust
import CrossVenue.Proofs.Pool.Scaled

/-!
# Splitting a trade

A pool that takes its fee from the input gives no more for the parts of a trade than for the whole.  What
is rounded off the parts is no less than what is rounded off the whole, so less of them meets the curve.
On the curve the second part meets all of the first one, its fee included; what the first one was given too
little stays in the pool, but the second part draws only a share of it.

* `effectiveInput_add_le` : no more of two parts meets the curve than of the whole;
* `output_add_le` : two parts give no more than the whole;
* `tradeAll_output_le` : nor does any number of parts;
* `split_never_pays` : so splitting a trade never pays.
-/

set_option autoImplicit false

namespace CrossVenue

theorem roundDown_add_le (a b granularity : Nat) :
    roundDown a granularity + roundDown b granularity ≤ roundDown (a + b) granularity := by
  simp only [roundDown, ← Nat.add_mul]
  exact Nat.mul_le_mul_right granularity Nat.div_add_div_le_add_div

namespace Pool

variable {p q : Pool} {d : Direction} {x x' : Nat}

/-! ## What meets the curve -/

theorem roundedInput_add_le (p : Pool) (d : Direction) (x x' : Nat) :
    p.roundedInput d x + p.roundedInput d x' ≤ p.roundedInput d (x + x') := by
  cases d with
  | aToB => exact Nat.le_refl _
  | bToA => exact roundDown_add_le x x' p.granularity

/-- **No more of two parts meets the curve than of the whole.** -/
theorem effectiveInput_add_le (p : Pool) (d : Direction) (x x' : Nat) :
    p.effectiveInput d x + p.effectiveInput d x' ≤ p.effectiveInput d (x + x') := by
  have hkept : x * p.keptRate / feeScale + x' * p.keptRate / feeScale ≤
      (x + x') * p.keptRate / feeScale := by
    rw [Nat.add_mul]
    exact Nat.div_add_div_le_add_div
  unfold effectiveInput
  split
  · exact (p.roundedInput_add_le d _ _).trans ((NoBetter.refl p d).roundedInput_le hkept)
  · exact p.roundedInput_add_le d x x'

theorem effectiveInput_eq_of_terms_eq (h : q.terms = p.terms) (d : Direction) (x : Nat) :
    q.effectiveInput d x = p.effectiveInput d x := by
  have hrounded : ∀ n, q.roundedInput d n = p.roundedInput d n := by
    intro n
    cases d with
    | aToB => rfl
    | bToA => rw [roundedInput, roundedInput, granularity_eq_of_terms_eq h]
  simp only [effectiveInput, convention_eq_of_terms_eq h, keptRate_eq_of_terms_eq h, hrounded]

/-! ## What the curve gives -/

/-- Two points below a curve, the second on what the first one leaves, are together below it.  `x` is what
the first one pays, `t` and `t'` what of both meets the curve. -/
theorem below_hyperbola {a c x y z t t' : Nat} (ht : t ≤ x) (hyc : y ≤ c)
    (hy : y * (a + t) ≤ c * t) (hz : z * (a + x + t') ≤ (c - y) * t') :
    (y + z) * (a + (t + t')) ≤ c * (t + t') := by
  obtain ⟨rest, rfl⟩ := Nat.exists_eq_add_of_le hyc
  rw [Nat.add_sub_cancel_left] at hz
  have hz' : z * (a + (t + t')) ≤ rest * t' :=
    (Nat.mul_le_mul_left z (by omega)).trans hz
  calc (y + z) * (a + (t + t'))
      = y * (a + t) + y * t' + z * (a + (t + t')) := by ring
    _ ≤ (y + rest) * t + y * t' + rest * t' := Nat.add_le_add (Nat.add_le_add_right hy _) hz'
    _ = (y + rest) * (t + t') := by ring

/-- Two outputs that are given in whole steps make up whole steps. -/
theorem roundedOutput_add_le {y z w : Nat} (h : p.roundedOutput d y + p.roundedOutput d z ≤ w) :
    p.roundedOutput d y + p.roundedOutput d z ≤ p.roundedOutput d w := by
  cases d with
  | aToB =>
    simp only [roundedOutput, roundDown, ← Nat.add_mul] at h ⊢
    exact Nat.mul_le_mul_right _ ((Nat.le_div_iff_mul_le p.granularity_pos).2 h)
  | bToA => exact h

theorem roundedOutput_eq_of_terms_eq (h : q.terms = p.terms) (d : Direction) (y : Nat) :
    q.roundedOutput d y = p.roundedOutput d y := by
  cases d with
  | aToB => rw [roundedOutput, roundedOutput, granularity_eq_of_terms_eq h]
  | bToA => rfl

/-- **Two parts give no more than the whole**, in a pool that takes its fee from the input: there the
output is the curve itself, rounded. -/
theorem output_add_le (hp : p.convention = .preFee) (hx : p.Quotable d x) (hterms : q.terms = p.terms)
    (hin : q.reserveIn d = p.reserveIn d + x) (hout : q.reserveOut d = p.reserveOut d - p.output d x)
    (x' : Nat) :
    p.output d x + q.output d x' ≤ p.output d (x + x') := by
  have hmet := hx.met
  have hwhole := p.effectiveInput_add_le d x x'
  have hpart := p.effectiveInput_le d x
  have hy := p.output_mul_effectiveInput_le d x
  have hz := q.output_mul_effectiveInput_le d x'
  rw [hin, hout, effectiveInput_eq_of_terms_eq hterms] at hz
  have hbelow := below_hyperbola hpart (p.output_le_reserveOut d x) hy hz
  have hcurve : p.output d x + q.output d x' ≤
      p.curveFormula d (p.effectiveInput d x + p.effectiveInput d x') := by
    simp only [curveFormula, hp]
    exact (Nat.le_div_iff_mul_le (by omega)).2 hbelow
  have hle := hcurve.trans (p.curveFormula_mono d hwhole)
  simp only [output, roundedOutput_eq_of_terms_eq hterms] at hle ⊢
  exact roundedOutput_add_le hle

/-! ## Trades in parts -/

/-- **Any number of parts takes no more out of a pool than the whole would.**  The induction is on the
parts; the rest of them meets the pool that the first one leaves. -/
theorem tradeAll_output_le (hp : p.convention = .preFee) {parts : List Int}
    (h : p.tradeAll (parts.map (·, d)) = .ok q) :
    ∃ n : Nat, parts.sum = n ∧ p.reserveOut d ≤ q.reserveOut d + p.output d n := by
  induction parts generalizing p with
  | nil =>
    cases h
    exact ⟨0, rfl, Nat.le_add_right _ _⟩
  | cons x parts ih =>
    simp only [tradeAll, List.map_cons, List.foldlM_cons, bind_eq_ok_iff] at h
    obtain ⟨p₁, hp₁, hrest⟩ := h
    obtain ⟨y, hy, hin, hout, hterms⟩ := trade_eq_ok_iff.1 hp₁
    obtain ⟨n, rfl, -, hquotable, rfl⟩ := quote_eq_ok_iff.1 hy
    obtain ⟨m, hm, hle⟩ := ih ((convention_eq_of_terms_eq hterms).trans hp) hrest
    have hadd := output_add_le hp hquotable hterms (by omega) (by omega) m
    exact ⟨n + m, by rw [List.sum_cons, hm, Nat.cast_add], by omega⟩

/-- **Splitting a trade never pays** where the fee is taken from the input.  Two parts, the second on the
pool that the first one leaves, bring no more than the whole; nor do any number of parts. -/
theorem split_never_pays (hp : p.convention = .preFee) :
    (∀ (x₁ x₂ : Int) (y₁ y₂ y : Nat) (q : Pool), p.quote x₁ d = .ok y₁ → p.trade x₁ d = .ok q →
      q.quote x₂ d = .ok y₂ → p.quote (x₁ + x₂) d = .ok y → y₁ + y₂ ≤ y) ∧
    ∀ (parts : List Int) (y : Nat) (q : Pool), p.tradeAll (parts.map (·, d)) = .ok q →
      p.quote parts.sum d = .ok y → p.reserveOut d ≤ q.reserveOut d + y := by
  refine ⟨fun x₁ x₂ y₁ y₂ y q h₁ ht h₂ h => ?_, fun parts y q ht h => ?_⟩
  · obtain ⟨y', hy', hin, hout, hterms⟩ := trade_eq_ok_iff.1 ht
    obtain rfl : y₁ = y' := by simpa [h₁] using hy'
    obtain ⟨n₁, rfl, -, hquotable, rfl⟩ := quote_eq_ok_iff.1 h₁
    obtain ⟨n₂, rfl, -, -, rfl⟩ := quote_eq_ok_iff.1 h₂
    obtain ⟨n, hn, -, -, rfl⟩ := quote_eq_ok_iff.1 h
    obtain rfl : n₁ + n₂ = n := by exact_mod_cast hn
    exact output_add_le hp hquotable hterms (by omega) (by omega) n₂
  · obtain ⟨n, hn, hle⟩ := tradeAll_output_le hp ht
    obtain ⟨n', hn', -, -, rfl⟩ := quote_eq_ok_iff.1 h
    obtain rfl : n = n' := by exact_mod_cast hn.symm.trans hn'
    exact hle

/-- Asset B is sold in two parts, and asset A in three. -/
theorem parts_bring_less :
    inputFeeSample.convention = .preFee ∧
    (∃ q, (inputFeeSample.quote 1000 .bToA = .ok 494 ∧ inputFeeSample.trade 1000 .bToA = .ok q ∧
      q.quote 2000 .bToA = .ok 993 ∧ inputFeeSample.quote (1000 + 2000) .bToA = .ok 1492) ∧
      494 + 993 ≤ 1492) ∧
    ∃ q, (inputFeeSample.tradeAll ([1000, 2000, 500].map (·, .aToB)) = .ok q ∧
      inputFeeSample.quote [1000, 2000, 500].sum .aToB = .ok 6950 ∧ q.reserveB = 1993060) ∧
      inputFeeSample.reserveB ≤ q.reserveB + 6950 := by
  have hp : inputFeeSample.convention = .preFee := rfl
  have h₁ : inputFeeSample.quote 1000 .bToA = .ok 494 := by decide +kernel
  have hrest : (inputFeeSample.trade 1000 .bToA >>= fun q => q.quote 2000 .bToA) = .ok 993 := by
    decide +kernel
  have h : inputFeeSample.quote (1000 + 2000) .bToA = .ok 1492 := by decide +kernel
  have hrun : (inputFeeSample.tradeAll ([1000, 2000, 500].map (·, .aToB))).map (·.reserveB) =
      .ok 1993060 := by decide +kernel
  have hwhole : inputFeeSample.quote [1000, 2000, 500].sum .aToB = .ok 6950 := by decide +kernel
  obtain ⟨q, ht, h₂⟩ := bind_eq_ok_iff.1 hrest
  obtain ⟨r, hr, hB⟩ := map_eq_ok_iff.1 hrun
  exact ⟨hp, ⟨q, ⟨h₁, ht, h₂, h⟩, (split_never_pays hp).1 _ _ _ _ _ _ h₁ ht h₂ h⟩,
    r, ⟨hr, hwhole, hB⟩, (split_never_pays hp).2 _ _ _ hr hwhole⟩

/-- A fee on the output stays in the reserve that goes out, and the second part is paid from it too. -/
example : sample.quote 100000 .aToB = .ok 181360 ∧
    (do (← sample.trade 100000 .aToB).quote 100000 .aToB) = .ok 151170 ∧
    sample.quote 200000 .aToB = .ok 332500 := by decide +kernel

end Pool

end CrossVenue
