import CrossVenue.Proofs.Pool.Monotone
import CrossVenue.Proofs.Pool.Run

/-!
# Dust below the granularity

Asset B is moved in whole steps, so what an input holds beyond its last whole step is dust.  A pool that
takes its fee from the output rounds the input itself, and dust is worth nothing there.  A pool that takes
its fee from the input rounds what the fee leaves: dust may then complete a step that the fee broke, and is
paid for as one whole step.

* `effectiveInput_bToA` : an input of asset B meets the curve in whole steps;
* `takenSteps_roundDown` : dust makes up for at most one of them;
* `dust_completes_one_step` : so a quote with dust is one without, or one for one step more.
-/

set_option autoImplicit false

namespace CrossVenue.Pool

variable {p : Pool}

/-- How many whole steps of asset B are left of an input when it meets the curve. -/
def takenSteps (p : Pool) (x : Nat) : Nat :=
  match p.convention with
  | .preFee => x * p.keptRate / feeScale / p.granularity
  | _ => x / p.granularity

/-- **An input of asset B meets the curve in whole steps.** -/
theorem effectiveInput_bToA (p : Pool) (x : Nat) :
    p.effectiveInput .bToA x = p.takenSteps x * p.granularity := by
  unfold effectiveInput takenSteps
  cases p.convention <;> rfl

theorem takenSteps_mono (p : Pool) {x x' : Nat} (h : x ≤ x') : p.takenSteps x ≤ p.takenSteps x' := by
  unfold takenSteps
  split
  · exact Nat.div_le_div_right (Nat.div_le_div_right (Nat.mul_le_mul_right _ h))
  · exact Nat.div_le_div_right h

/-- What the fee leaves of an input grows by no more than the input. -/
theorem kept_add_le (p : Pool) (x more : Nat) :
    (x + more) * p.keptRate / feeScale ≤ x * p.keptRate / feeScale + more := by
  have hs : 0 < feeScale := by decide
  have hmore : more * p.keptRate ≤ more * feeScale := Nat.mul_le_mul_left more p.keptRate_le
  calc (x + more) * p.keptRate / feeScale
      ≤ (x * p.keptRate + more * feeScale) / feeScale :=
        Nat.div_le_div_right (by rw [Nat.add_mul]; exact Nat.add_le_add_left hmore _)
    _ = x * p.keptRate / feeScale + more := Nat.add_mul_div_right _ _ hs

/-- **Dust makes up for at most one step**, and for none where the fee does not break the input. -/
theorem takenSteps_roundDown (p : Pool) (x : Nat) :
    p.takenSteps x = p.takenSteps (roundDown x p.granularity) ∨
      p.convention = .preFee ∧ p.feeRate ≠ 0 ∧
        p.takenSteps x = p.takenSteps (roundDown x p.granularity) + 1 := by
  have hg := p.granularity_pos
  have hle := p.takenSteps_mono (roundDown_le x p.granularity)
  by_cases hpre : p.convention = .preFee
  · by_cases hfee : p.feeRate = 0
    · -- without a fee all of the input is kept
      have hkept : p.keptRate = feeScale := by rw [keptRate, hfee, Nat.sub_zero]
      have hs : 0 < feeScale := by decide
      left
      simp only [takenSteps, hpre, hkept, Nat.mul_div_cancel _ hs, roundDown_div _ hg]
    · have hdust : x = roundDown x p.granularity + x % p.granularity := (Nat.div_add_mod' x _).symm
      have hmod := Nat.mod_lt x hg
      have hkept := p.kept_add_le (roundDown x p.granularity) (x % p.granularity)
      rw [← hdust] at hkept
      have hstep : p.takenSteps x ≤ p.takenSteps (roundDown x p.granularity) + 1 := by
        simp only [takenSteps, hpre]
        rw [← Nat.add_div_right _ hg]
        exact Nat.div_le_div_right (by omega)
      by_cases heq : p.takenSteps x = p.takenSteps (roundDown x p.granularity)
      · exact .inl heq
      · exact .inr ⟨hpre, hfee, by omega⟩
  · left
    unfold takenSteps
    split
    · exact absurd ‹_› hpre
    · exact (roundDown_div x hg).symm

/-- A quote for asset B is the curve at whole steps. -/
theorem quote_bToA {x y : Nat} (h : p.quote x .bToA = .ok y) :
    y = p.curveFormula .bToA (p.takenSteps x * p.granularity) := by
  obtain ⟨n, hn, -, -, rfl⟩ := quote_eq_ok_iff.1 h
  obtain rfl : x = n := by exact_mod_cast hn
  rw [← effectiveInput_bToA]
  rfl

/-- **Dust is paid for as one step more, or not at all.**  What a pool gives for an input of asset B
depends on the whole steps that meet the curve, and dust never makes it less.  It makes a difference only
in a pool that takes a fee from the input, and only where it completes one step that the fee broke. -/
theorem dust_completes_one_step {x : Int} {y z : Nat} (hy : p.quote x .bToA = .ok y)
    (hz : p.quote (x / p.granularity * p.granularity) .bToA = .ok z) :
    ∃ n steps : Nat, x = n ∧ steps = p.takenSteps (n / p.granularity * p.granularity) ∧
      z = p.curveFormula .bToA (steps * p.granularity) ∧ z ≤ y ∧
      (p.takenSteps n = steps ∧ y = z ∨
        p.convention = .preFee ∧ p.feeRate ≠ 0 ∧ p.takenSteps n = steps + 1 ∧
          y = p.curveFormula .bToA ((steps + 1) * p.granularity)) := by
  obtain ⟨n, rfl, -⟩ := quote_eq_ok_iff.1 hy
  have hwhole := quote_bToA (x := n / p.granularity * p.granularity) (by exact_mod_cast hz)
  have hdusty := quote_bToA hy
  refine ⟨n, _, rfl, rfl, hwhole, ?_, ?_⟩
  · rw [hwhole, hdusty]
    have hsteps := p.takenSteps_mono (roundDown_le n p.granularity)
    exact p.curveFormula_mono _ (Nat.mul_le_mul_right _ hsteps)
  · rcases p.takenSteps_roundDown n with hsame | ⟨hpre, hfee, hmore⟩
    · exact .inl ⟨hsame, by rw [hwhole, hdusty, hsame]; rfl⟩
    · exact .inr ⟨hpre, hfee, hmore, by rw [hdusty, hmore]; rfl⟩

/-- The pool that gives asset B in tens, with its fee on the input. -/
def inputFeeSample : Pool := { sample with convention := .preFee }

/-- Of eleven the fee leaves ten, of ten it leaves nine: the eleventh completes a step. -/
theorem eleven_complete_a_step :
    (inputFeeSample.quote 11 .bToA = .ok 4 ∧ inputFeeSample.quote (11 / 10 * 10) .bToA = .ok 0) ∧
    ∃ n steps : Nat, (11 : Int) = n ∧ steps = inputFeeSample.takenSteps (n / 10 * 10) ∧
      0 = inputFeeSample.curveFormula .bToA (steps * 10) ∧ 0 ≤ 4 ∧
      (inputFeeSample.takenSteps n = steps ∧ 4 = 0 ∨
        inputFeeSample.convention = .preFee ∧ inputFeeSample.feeRate ≠ 0 ∧
          inputFeeSample.takenSteps n = steps + 1 ∧
          4 = inputFeeSample.curveFormula .bToA ((steps + 1) * 10)) :=
  have hy : inputFeeSample.quote 11 .bToA = .ok 4 := by decide +kernel
  have hz : inputFeeSample.quote (11 / 10 * 10) .bToA = .ok 0 := by decide +kernel
  ⟨⟨hy, hz⟩, dust_completes_one_step hy hz⟩

/-- **Dust is paid for**: eleven of asset B bring four, and without the eleventh nothing. -/
theorem dust_is_paid_for :
    ¬ ∀ (p : Pool) (x : Int) (y z : Nat), p.quote x .bToA = .ok y →
      p.quote (x / p.granularity * p.granularity) .bToA = .ok z → y = z := by
  intro h
  have hy : inputFeeSample.quote 11 .bToA = .ok 4 := by decide +kernel
  have hz : inputFeeSample.quote (11 / 10 * 10) .bToA = .ok 0 := by decide +kernel
  exact absurd (h inputFeeSample 11 4 0 hy hz) (by decide)

end CrossVenue.Pool
