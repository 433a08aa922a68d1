import CrossVenue.Proofs.Pool.Trade

/-!
# Runs of trades

Trades may come in any order, number and size; those that are rejected change nothing.  What carries a
run is the product of the reserves: no trade makes it smaller, so a pool that holds something of both
assets does so forever, and never gets back to less of one asset for nothing of the other.

* `trade_keeps`, `run_keeps` : a trade, and a run, keep the terms and do not lower the product;
* `returned_le` : trading the whole output back returns no more than what went in;
* `run_never_drains` : no run of trades drains or devalues a pool.
-/

set_option autoImplicit false

namespace CrossVenue.Pool

variable {p q r : Pool} {d : Direction}

/-- The second pool has the terms of the first, and at least its product. -/
structure Keeps (p q : Pool) : Prop where
  terms_eq : q.terms = p.terms
  product_le : p.reserveA * p.reserveB ≤ q.reserveA * q.reserveB

namespace Keeps

theorem refl (p : Pool) : p.Keeps p := ⟨rfl, Nat.le_refl _⟩

theorem trans (h : p.Keeps q) (h' : q.Keeps r) : p.Keeps r :=
  ⟨h'.terms_eq.trans h.terms_eq, h.product_le.trans h'.product_le⟩

theorem reserves_pos (h : p.Keeps q) (ha : 0 < p.reserveA) (hb : 0 < p.reserveB) :
    0 < q.reserveA ∧ 0 < q.reserveB := by
  have hq : 0 < q.reserveA * q.reserveB := (Nat.mul_pos ha hb).trans_le h.product_le
  exact ⟨Nat.pos_of_mul_pos_right hq, Nat.pos_of_mul_pos_left hq⟩

/-- There is no less of one asset without more of the other. -/
theorem not_devalued (h : p.Keeps q) (ha : 0 < p.reserveA) (hb : 0 < p.reserveB) :
    ¬ (q.reserveA ≤ p.reserveA ∧ q.reserveB ≤ p.reserveB ∧
      (q.reserveA < p.reserveA ∨ q.reserveB < p.reserveB)) := by
  rintro ⟨hleA, hleB, hlt⟩
  have hp := h.product_le
  rcases hlt with hlt | hlt
  · have h1 : q.reserveA * q.reserveB ≤ q.reserveA * p.reserveB := Nat.mul_le_mul_left _ hleB
    have h2 : q.reserveA * p.reserveB < p.reserveA * p.reserveB := Nat.mul_lt_mul_of_pos_right hlt hb
    omega
  · have h1 : q.reserveA * q.reserveB ≤ p.reserveA * q.reserveB := Nat.mul_le_mul_right _ hleA
    have h2 : p.reserveA * q.reserveB < p.reserveA * p.reserveB := Nat.mul_lt_mul_of_pos_left hlt ha
    omega

end Keeps

/-! ## One trade -/

theorem trade_keeps {x : Int} (h : p.trade x d = .ok q) : p.Keeps q := by
  obtain ⟨_, _, _, _, ht⟩ := trade_eq_ok_iff.1 h
  exact ⟨ht, trade_product_le h⟩

/-- There is something in a pool that quotes, once the input is in it. -/
theorem Quotable.credited_pos {n : Nat} (h : p.Quotable d n) : 0 < p.reserveIn d + n := by
  have hle := p.effectiveInput_le d n
  have hmet := h.met
  omega

/-- **What is traded back for the whole output is no more than what went in.**  Both quotes stay below
their curves, and the curves have the reserve of the output in common. -/
theorem returned_le {x : Int} {y z : Nat} (hq : p.quote x d = .ok y) (ht : p.trade x d = .ok q)
    (hz : q.quote y d.flip = .ok z) : (z : Int) ≤ x := by
  obtain ⟨y', hy', hin, hout, -⟩ := trade_eq_ok_iff.1 ht
  rw [hq, Except.ok.injEq] at hy'
  subst hy'
  obtain ⟨n, rfl, -, -, hy⟩ := quote_eq_ok_iff.1 hq
  obtain ⟨m, hm, -, hquotable, rfl⟩ := quote_eq_ok_iff.1 hz
  obtain rfl : y = m := by exact_mod_cast hm
  have hle : y ≤ p.reserveOut d := hy ▸ p.output_le_reserveOut d n
  have hthere : y * (p.reserveIn d + n) ≤ p.reserveOut d * n := hy ▸ p.output_mul_le d n
  have hback := q.output_mul_le d.flip y
  have hcredited := hquotable.credited_pos
  -- the pool after the first trade, seen from the opposite direction
  have hin' : q.reserveOut d.flip = p.reserveIn d + n := by
    have hflip : q.reserveOut d.flip = q.reserveIn d := by cases d <;> rfl
    omega
  have hout' : q.reserveIn d.flip + y = p.reserveOut d := by
    have hflip : q.reserveIn d.flip = q.reserveOut d := rfl
    omega
  rw [hout'] at hback hcredited
  rw [hin'] at hback
  have hchain : q.output d.flip y * p.reserveOut d ≤ n * p.reserveOut d := by
    calc q.output d.flip y * p.reserveOut d ≤ (p.reserveIn d + n) * y := hback
      _ = y * (p.reserveIn d + n) := Nat.mul_comm _ _
      _ ≤ p.reserveOut d * n := hthere
      _ = n * p.reserveOut d := Nat.mul_comm _ _
  exact_mod_cast Nat.le_of_mul_le_mul_right hchain hcredited

/-! ## Any number of trades -/

theorem run_append (p : Pool) (ts us : List (Int × Direction)) :
    p.run (ts ++ us) = (p.run ts).run us := by
  simp only [run, List.foldl_append]

theorem run_of_ok {x : Int} (h : p.trade x d = .ok q) : p.run [(x, d)] = q := by
  simp only [run, List.foldl_cons, List.foldl_nil, h]

theorem run_of_error {x : Int} {e : Rejection} (h : p.trade x d = .error e) :
    p.run [(x, d)] = p := by
  simp only [run, List.foldl_cons, List.foldl_nil, h]

theorem step_keeps (p : Pool) (x : Int) (d : Direction) : p.Keeps (p.run [(x, d)]) := by
  cases h : p.trade x d with
  | ok q =>
    rw [run_of_ok h]
    exact trade_keeps h
  | error e =>
    rw [run_of_error h]
    exact Keeps.refl p

theorem run_keeps (p : Pool) (ts : List (Int × Direction)) : p.Keeps (p.run ts) := by
  induction ts generalizing p with
  | nil => exact Keeps.refl p
  | cons t ts ih =>
    rw [show t :: ts = [t] ++ ts from rfl, run_append]
    exact (step_keeps p t.1 t.2).trans (ih _)

/-- **No run of trades drains or devalues a pool.**  The pool that is reached keeps its terms, holds
words, and holds something of both assets if the first one did, never less of one for no more of the
other.  The next trade credits its whole input and debits its quote, which buys back no more than that
input; it fails only if it has no quote or its credit is no word, and changes nothing then. -/
theorem run_never_drains (p : Pool) (ts : List (Int × Direction)) :
    let q := p.run ts
    (q.terms = p.terms ∧ q.reserveA ≤ maxWord ∧ q.reserveB ≤ maxWord) ∧
    (0 < p.reserveA → 0 < p.reserveB →
      (0 < q.reserveA ∧ 0 < q.reserveB) ∧
      ¬ (q.reserveA ≤ p.reserveA ∧ q.reserveB ≤ p.reserveB ∧
        (q.reserveA < p.reserveA ∨ q.reserveB < p.reserveB))) ∧
    ∀ (x : Int) (d : Direction),
      let r := p.run (ts ++ [(x, d)])
      q.reserveA * q.reserveB ≤ r.reserveA * r.reserveB ∧
      ((∃ y : Nat, q.quote x d = .ok y ∧ q.trade x d = .ok r ∧
          (r.reserveIn d : Int) = q.reserveIn d + x ∧ (r.reserveOut d : Int) = q.reserveOut d - y ∧
          ∀ z : Nat, r.quote y d.flip = .ok z → (z : Int) ≤ x) ∨
        ((∀ s, q.trade x d ≠ .ok s) ∧ r = q ∧
          ((∀ y, q.quote x d ≠ .ok y) ∨ (maxWord : Int) < q.reserveIn d + x))) := by
  intro q
  have hkeeps : p.Keeps q := p.run_keeps ts
  refine ⟨⟨hkeeps.terms_eq, q.reserveA_le, q.reserveB_le⟩, ?_, ?_⟩
  · intro ha hb
    exact ⟨hkeeps.reserves_pos ha hb, hkeeps.not_devalued ha hb⟩
  · intro x d r
    have hr : r = q.run [(x, d)] := p.run_append ts [(x, d)]
    refine ⟨hr ▸ (q.step_keeps x d).product_le, ?_⟩
    cases h : q.trade x d with
    | ok s =>
      obtain ⟨y, hy, hin, hout, -⟩ := trade_eq_ok_iff.1 h
      obtain rfl : r = s := hr.trans (run_of_ok h)
      exact .inl ⟨y, hy, rfl, hin, hout, fun z hz => returned_le hy h hz⟩
    | error e =>
      refine .inr ⟨fun s => nofun, hr.trans (run_of_error h), ?_⟩
      -- a trade with a quote and a credit that fits would succeed
      by_contra hgood
      push Not at hgood
      obtain ⟨s, hs⟩ := exists_trade_iff.2 hgood
      rw [h] at hs
      cases hs

/-- A pool with a fee on the output, which gives asset B in tens. -/
def sample : Pool :=
  { venue := "astroport"
    plane := "COSMOS"
    reserveA := 1000000
    reserveB := 2000000
    feeRate := 2500
    convention := .postFee
    denomA := .str "usdt"
    denomB := .str "eth"
    granularity := 10
    reserveA_le := by decide
    reserveB_le := by decide
    feeRate_le := by decide
    granularity_pos := by decide }

/-- A run that buys, asks for what cannot be traded, and sells what was bought. -/
theorem sample_never_drained :
    let q := sample.run [(1000, .aToB), (-1, .bToA), (1990, .bToA)]
    (0 < sample.reserveA ∧ 0 < sample.reserveB) ∧
    (q.reserveA, q.reserveB) = (1000007, 2000000) ∧
    (0 < q.reserveA ∧ 0 < q.reserveB) ∧
    ¬ (q.reserveA ≤ sample.reserveA ∧ q.reserveB ≤ sample.reserveB ∧
      (q.reserveA < sample.reserveA ∨ q.reserveB < sample.reserveB)) :=
  have ha : 0 < sample.reserveA := by decide
  have hb : 0 < sample.reserveB := by decide
  ⟨⟨ha, hb⟩, by decide +kernel, (run_never_drains sample _).2.1 ha hb⟩

end CrossVenue.Pool
