import CrossVenue.Pool.Quote
import CrossVenue.Proofs.Computation
import CrossVenue.Proofs.Number.Short
import Mathlib.Tactic.Linarith
import Mathlib.Tactic.Ring

/-!
# What quotes answer

A quote succeeds when the size is a word and every product on the way is one, and then it is given by a
formula in natural numbers:

* `quote_eq_ok_iff` : which sizes are quoted, and the formula;
* `output_mul_le` : the formula is never above the curve `x * y = k` without a fee;
* `quote_le`, `quote_half_le` : a quote is a word, and twice a quote is still one;
* `granularity_dvd_quote` : asset B is given in whole steps.
-/

set_option autoImplicit false

namespace CrossVenue.Pool

variable {p : Pool} {d : Direction}

/-- The part of an input that meets the curve. -/
def effectiveInput (p : Pool) (d : Direction) (x : Nat) : Nat :=
  match p.convention with
  | .preFee => p.roundedInput d (x * p.keptRate / feeScale)
  | _ => p.roundedInput d x

/-- What the curve gives for the part of an input that meets it, less a fee on the output. -/
def curveFormula (p : Pool) (d : Direction) (taken : Nat) : Nat :=
  match p.convention with
  | .preFee => p.reserveOut d * taken / (p.reserveIn d + taken)
  | .postFee => p.reserveOut d * taken * p.keptRate / ((p.reserveIn d + taken) * feeScale)
  | .other _ => 0

/-- The output for an input, if it is quoted at all. -/
def output (p : Pool) (d : Direction) (x : Nat) : Nat :=
  p.roundedOutput d (p.curveFormula d (p.effectiveInput d x))

/-- Are all the products that a quote computes words, and is there something in the pool? -/
def Quotable (p : Pool) (d : Direction) (x : Nat) : Prop :=
  match p.convention with
  | .preFee =>
    x * p.keptRate ≤ maxWord ∧ p.reserveOut d * p.effectiveInput d x ≤ maxWord ∧
      p.reserveIn d + p.effectiveInput d x ≠ 0
  | .postFee =>
    p.reserveOut d * p.effectiveInput d x * p.keptRate ≤ maxWord ∧
      (p.reserveIn d + p.effectiveInput d x) * feeScale ≤ maxWord ∧
      p.reserveIn d + p.effectiveInput d x ≠ 0
  | .other _ => False

/-! ## The formula -/

theorem curveOutput_eq_ok_iff {numerator denominator y : Nat} :
    p.curveOutput numerator denominator = .ok y ↔
      denominator ≠ 0 ∧ y = numerator / denominator := by
  unfold curveOutput rejectAt
  split
  · simp [*]
  · simp [*, eq_comm]

theorem outputFeeQuote_eq_ok_iff {x y : Nat} (hp : p.convention = .postFee) :
    p.outputFeeQuote d x = .ok y ↔
      p.Quotable d x ∧ y = p.curveFormula d (p.effectiveInput d x) := by
  have hs : feeScale ≠ 0 := by decide
  simp only [outputFeeQuote, bind_eq_ok_iff, checkNatural_eq_ok_iff, curveOutput_eq_ok_iff, Quotable,
    curveFormula, effectiveInput, hp]
  constructor
  · rintro ⟨_, ⟨rfl, hn⟩, _, ⟨rfl, hd⟩, hz, rfl⟩
    exact ⟨⟨hn, hd, (Nat.mul_ne_zero_iff.1 hz).1⟩, rfl⟩
  · rintro ⟨⟨hn, hd, hz⟩, rfl⟩
    exact ⟨_, ⟨rfl, hn⟩, _, ⟨rfl, hd⟩, Nat.mul_ne_zero_iff.2 ⟨hz, hs⟩, rfl⟩

theorem inputFeeQuote_eq_ok_iff {x y : Nat} (hp : p.convention = .preFee) :
    p.inputFeeQuote d x = .ok y ↔
      p.Quotable d x ∧ y = p.curveFormula d (p.effectiveInput d x) := by
  simp only [inputFeeQuote, bind_eq_ok_iff, checkNatural_eq_ok_iff, curveOutput_eq_ok_iff, Quotable,
    curveFormula, effectiveInput, hp]
  constructor
  · rintro ⟨_, ⟨rfl, hk⟩, _, ⟨rfl, hn⟩, hz, rfl⟩
    exact ⟨⟨hk, hn, hz⟩, rfl⟩
  · rintro ⟨⟨hk, hn, hz⟩, rfl⟩
    exact ⟨_, ⟨rfl, hk⟩, _, ⟨rfl, hn⟩, hz, rfl⟩

theorem rawQuote_eq_ok_iff {x y : Nat} :
    p.rawQuote d x = .ok y ↔ p.Quotable d x ∧ y = p.curveFormula d (p.effectiveInput d x) := by
  unfold rawQuote
  split
  · exact outputFeeQuote_eq_ok_iff ‹_›
  · exact inputFeeQuote_eq_ok_iff ‹_›
  · simp [rejectAt, Quotable, *]

/-- **A quote succeeds exactly when its size and its products are words, and then follows the
formula.** -/
theorem quote_eq_ok_iff {x : Int} {y : Nat} :
    p.quote x d = .ok y ↔
      ∃ n : Nat, x = n ∧ n ≤ maxWord ∧ p.Quotable d n ∧ y = p.output d n := by
  unfold quote
  split
  · rename_i hx
    constructor
    · intro h
      cases h
    · rintro ⟨n, rfl, -⟩
      omega
  · rename_i hx
    obtain ⟨n, rfl⟩ : ∃ n : Nat, x = n := ⟨x.toNat, by omega⟩
    simp only [bind_eq_ok_iff, checkNatural_eq_ok_iff, rawQuote_eq_ok_iff, Int.toNat_natCast, output,
      Except.ok.injEq, Int.natCast_inj]
    constructor
    · rintro ⟨_, ⟨rfl, hn⟩, _, ⟨hq, rfl⟩, rfl⟩
      exact ⟨_, rfl, hn, hq, rfl⟩
    · rintro ⟨_, rfl, hn, hq, rfl⟩
      exact ⟨n, ⟨rfl, hn⟩, _, ⟨hq, rfl⟩, rfl⟩

/-- There is something in a pool that quotes, with what meets the curve in it. -/
theorem Quotable.met {x : Nat} (h : p.Quotable d x) : p.reserveIn d + p.effectiveInput d x ≠ 0 := by
  unfold Quotable at h
  split at h
  · exact h.2.2
  · exact h.2.2
  · exact h.elim

/-! ## Bounds -/

theorem roundedInput_le (p : Pool) (d : Direction) (x : Nat) : p.roundedInput d x ≤ x := by
  cases d with
  | aToB => exact Nat.le_refl x
  | bToA => exact roundDown_le x p.granularity

theorem roundedOutput_le (p : Pool) (d : Direction) (y : Nat) : p.roundedOutput d y ≤ y := by
  cases d with
  | aToB => exact roundDown_le y p.granularity
  | bToA => exact Nat.le_refl y

/-- Without steps nothing is rounded. -/
theorem roundedInput_of_one (h : p.granularity = 1) (d : Direction) (x : Nat) :
    p.roundedInput d x = x := by
  cases d with
  | aToB => rfl
  | bToA => rw [roundedInput, h, roundDown_one]

theorem roundedOutput_of_one (h : p.granularity = 1) (d : Direction) (y : Nat) :
    p.roundedOutput d y = y := by
  cases d with
  | aToB => rw [roundedOutput, h, roundDown_one]
  | bToA => rfl

theorem keptRate_le (p : Pool) : p.keptRate ≤ feeScale := Nat.sub_le _ _

theorem effectiveInput_le (p : Pool) (d : Direction) (x : Nat) : p.effectiveInput d x ≤ x := by
  have hk : x * p.keptRate / feeScale ≤ x :=
    Nat.div_le_of_le_mul (Nat.mul_comm feeScale x ▸ Nat.mul_le_mul_left x p.keptRate_le)
  unfold effectiveInput
  split
  · exact (p.roundedInput_le d _).trans hk
  · exact p.roundedInput_le d x

/-- The formula is never above the curve without a fee, at what meets the curve. -/
theorem curveFormula_mul_le (p : Pool) (d : Direction) (taken : Nat) :
    p.curveFormula d taken * (p.reserveIn d + taken) ≤ p.reserveOut d * taken := by
  unfold curveFormula
  split
  · exact Nat.div_mul_le_self _ _
  · have hs : 0 < feeScale := by decide
    have hq := Nat.div_mul_le_self (p.reserveOut d * taken * p.keptRate)
      ((p.reserveIn d + taken) * feeScale)
    have hk := Nat.mul_le_mul_left (p.reserveOut d * taken) p.keptRate_le
    rw [← Nat.mul_assoc] at hq
    exact Nat.le_of_mul_le_mul_right (hq.trans hk) hs
  · simp

theorem curveFormula_le (p : Pool) (d : Direction) (taken : Nat) :
    p.curveFormula d taken ≤ p.reserveOut d := by
  have hc := p.curveFormula_mul_le d taken
  by_cases hz : p.reserveIn d + taken = 0
  · have ht : taken = 0 := by omega
    unfold curveFormula
    split <;> simp [ht]
  · have ho := Nat.mul_le_mul_left (p.reserveOut d) (Nat.le_add_left taken (p.reserveIn d))
    exact Nat.le_of_mul_le_mul_right (hc.trans ho) (Nat.pos_of_ne_zero hz)

theorem output_le_reserveOut (p : Pool) (d : Direction) (x : Nat) : p.output d x ≤ p.reserveOut d :=
  (p.roundedOutput_le d _).trans (p.curveFormula_le d _)

/-- The output is never above the curve without a fee, at what meets the curve. -/
theorem output_mul_effectiveInput_le (p : Pool) (d : Direction) (x : Nat) :
    p.output d x * (p.reserveIn d + p.effectiveInput d x) ≤ p.reserveOut d * p.effectiveInput d x :=
  (Nat.mul_le_mul_right _ (p.roundedOutput_le d _)).trans (p.curveFormula_mul_le d _)

/-- **The output of an input is never above the curve without a fee.**  The whole input stands on both
sides, also the part of it that never meets the curve. -/
theorem output_mul_le (p : Pool) (d : Direction) (x : Nat) :
    p.output d x * (p.reserveIn d + x) ≤ p.reserveOut d * x := by
  have h1 := p.output_mul_effectiveInput_le d x
  obtain ⟨rest, hr⟩ := Nat.exists_eq_add_of_le (p.effectiveInput_le d x)
  have h2 := Nat.mul_le_mul_right rest (p.output_le_reserveOut d x)
  generalize p.effectiveInput d x = taken at *
  calc p.output d x * (p.reserveIn d + x)
      = p.output d x * (p.reserveIn d + taken) + p.output d x * rest := by rw [hr]; ring
    _ ≤ p.reserveOut d * taken + p.reserveOut d * rest := Nat.add_le_add h1 h2
    _ = p.reserveOut d * x := by rw [hr]; ring

/-- A trade at a quote never makes the product of the reserves smaller. -/
theorem product_le_of_output (p : Pool) (d : Direction) (x : Nat) :
    p.reserveIn d * p.reserveOut d ≤
      (p.reserveIn d + x) * (p.reserveOut d - p.output d x) := by
  have hm := p.output_mul_le d x
  obtain ⟨rest, hr⟩ := Nat.exists_eq_add_of_le (p.output_le_reserveOut d x)
  have hs : p.reserveOut d - p.output d x = rest := by omega
  rw [hs]
  generalize p.output d x = y at *
  nlinarith

theorem reserveIn_le (p : Pool) (d : Direction) : p.reserveIn d ≤ maxWord := by
  cases d with
  | aToB => exact p.reserveA_le
  | bToA => exact p.reserveB_le

theorem reserveOut_le (p : Pool) (d : Direction) : p.reserveOut d ≤ maxWord := p.reserveIn_le d.flip

section

variable {x : Nat} (hx : x ≤ maxWord)

include hx

/-- The products of a quote are no wider than two words and a rate, so all of them can be written. -/
theorem isWritable_outputFeeNumerator (p : Pool) (d : Direction) :
    Number.isWritable (p.reserveOut d * p.roundedInput d x * p.keptRate : Nat) = true := by
  have htaken := (p.roundedInput_le d x).trans hx
  exact Number.isWritable_of_le
    (Nat.mul_le_mul (Nat.mul_le_mul (p.reserveOut_le d) htaken) p.keptRate_le)

theorem isWritable_outputFeeDenominator (p : Pool) (d : Direction) :
    Number.isWritable ((p.reserveIn d + p.roundedInput d x) * feeScale : Nat) = true := by
  have htaken := (p.roundedInput_le d x).trans hx
  have hsum : (p.reserveIn d + p.roundedInput d x) * feeScale ≤ (maxWord + maxWord) * feeScale :=
    Nat.mul_le_mul_right _ (Nat.add_le_add (p.reserveIn_le d) htaken)
  exact Number.isWritable_of_le (hsum.trans (by decide))

theorem isWritable_kept (p : Pool) : Number.isWritable (x * p.keptRate : Nat) = true :=
  Number.isWritable_of_le ((Nat.mul_le_mul hx p.keptRate_le).trans (by decide))

theorem isWritable_inputFeeNumerator (p : Pool) (d : Direction) :
    Number.isWritable (p.reserveOut d * p.roundedInput d (x / feeScale) : Nat) = true := by
  have htaken := (p.roundedInput_le d _).trans ((Nat.div_le_self x feeScale).trans hx)
  exact Number.isWritable_of_le ((Nat.mul_le_mul (p.reserveOut_le d) htaken).trans (by decide))

end

/-- A quote is a word. -/
theorem quote_le {x : Int} {y : Nat} (h : p.quote x d = .ok y) : y ≤ maxWord := by
  obtain ⟨n, -, -, -, rfl⟩ := quote_eq_ok_iff.1 h
  exact (p.output_le_reserveOut d n).trans (p.reserveOut_le d)

/-- **Twice a quote is still a word**, if there is something of what goes in. -/
theorem quote_half_le {x : Int} {y : Nat} (h : p.quote x d = .ok y) (hi : 0 < p.reserveIn d) :
    2 * y ≤ maxWord := by
  obtain ⟨n, -, -, hq, rfl⟩ := quote_eq_ok_iff.1 h
  have hy : p.output d n ≤ p.curveFormula d (p.effectiveInput d n) := p.roundedOutput_le d _
  suffices hh : 2 * p.curveFormula d (p.effectiveInput d n) ≤ maxWord by omega
  simp only [Quotable, curveFormula] at hq ⊢
  generalize p.effectiveInput d n = taken at *
  cases hp : p.convention with
  | preFee =>
    simp only [hp] at hq ⊢
    rcases Nat.eq_zero_or_pos taken with rfl | ht
    · simp
    · have h2 := Nat.div_le_div_left (show 2 ≤ p.reserveIn d + taken by omega) (by decide)
        (a := p.reserveOut d * taken)
      omega
  | postFee =>
    simp only [hp] at hq ⊢
    have h2 : 2 ≤ (p.reserveIn d + taken) * feeScale :=
      Nat.le_trans (by decide) (Nat.mul_le_mul_right feeScale (show 1 ≤ p.reserveIn d + taken by omega))
    have h3 := Nat.div_le_div_left h2 (by decide) (a := p.reserveOut d * taken * p.keptRate)
    omega
  | other name =>
    simp only [hp] at hq

/-- What a pool gives of asset B is a number of whole steps. -/
theorem granularity_dvd_quote {x : Int} {y : Nat} (h : p.quote x .aToB = .ok y) :
    p.granularity ∣ y := by
  obtain ⟨n, -, -, -, rfl⟩ := quote_eq_ok_iff.1 h
  exact Nat.dvd_mul_left p.granularity _

end CrossVenue.Pool
