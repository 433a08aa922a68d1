import CrossVenue.Proofs.Pool.Run

/-!
# Pools in larger units

A pool that counts asset B in smaller units than the plane that holds it has the plane's unit as its
granularity.  It behaves like the pool of the plane, unit for unit: all roundings commute with the
change of units, those of the fee, of the curve and of the granularity alike.

* `output_scaled` : outputs agree up to units, in both directions and under both conventions;
* `trade_scaled` : a trade leads to pools that stand for each other again;
* `tradeAll_scaled` : so does a run of trades.
-/

set_option autoImplicit false

namespace CrossVenue.Pool

variable {p q p' q' : Pool} {d : Direction}

/-- How many units of a pool make one unit of what goes in on the plane: asset B comes in steps. -/
def unitIn (p : Pool) : Direction → Nat
  | .aToB => 1
  | .bToA => p.granularity

/-- The second pool is the first one in the units of its plane. -/
structure ScalesTo (p q : Pool) : Prop where
  reserveA_eq : p.reserveA = q.reserveA
  reserveB_eq : p.reserveB = p.granularity * q.reserveB
  terms_eq : q.terms = { p.terms with granularity := 1 }

/-- The pool in the units of its plane. -/
def scaledDown (p : Pool) : Pool :=
  { p with
    reserveB := p.reserveB / p.granularity
    granularity := 1
    reserveB_le := (Nat.div_le_self _ _).trans p.reserveB_le
    granularity_pos := Nat.one_pos }

/-- A pool that holds whole units has one pool in the units of its plane. -/
theorem scalesTo_iff : p.ScalesTo q ↔ p.granularity ∣ p.reserveB ∧ q = p.scaledDown := by
  constructor
  · rintro ⟨hA, hB, ht⟩
    have hg := p.granularity_pos
    have hdiv : p.reserveB / p.granularity = q.reserveB := by
      rw [hB]
      exact Nat.mul_div_cancel_left _ hg
    refine ⟨⟨_, hB⟩, ?_⟩
    simp only [terms, listing, Listing.mk.injEq, Nat.cast_inj, Nat.cast_eq_one, true_and] at ht
    obtain ⟨hv, hp, hf, hc, ha, hb, hg'⟩ := ht
    ext1
    · exact hv
    · exact hp
    · exact hA.symm
    · exact hdiv.symm
    · exact hf
    · exact hc
    · exact ha
    · exact hb
    · exact hg'
  · rintro ⟨hdvd, rfl⟩
    exact ⟨rfl, (Nat.mul_div_cancel' hdvd).symm, rfl⟩

/-! ## Roundings commute with the change of units -/

theorem roundDown_mul_div {g : Nat} (hg : 0 < g) (n m : Nat) :
    roundDown (g * n / m) g = g * (n / m) := by
  rw [roundDown, Nat.div_div_eq_div_mul, Nat.mul_comm m g, Nat.mul_div_mul_left _ _ hg, Nat.mul_comm]

theorem unitIn_pos (p : Pool) (d : Direction) : 0 < p.unitIn d := by
  cases d with
  | aToB => exact Nat.one_pos
  | bToA => exact p.granularity_pos

theorem roundedInput_unitIn (p : Pool) (d : Direction) (n m : Nat) :
    p.roundedInput d (p.unitIn d * n / m) = p.unitIn d * (n / m) := by
  cases d with
  | aToB => simp only [roundedInput, unitIn, Nat.one_mul]
  | bToA => exact roundDown_mul_div p.granularity_pos n m

theorem roundedOutput_unitIn (p : Pool) (d : Direction) (n m : Nat) :
    p.roundedOutput d (p.unitIn d.flip * n / m) = p.unitIn d.flip * (n / m) := by
  cases d with
  | aToB => exact roundDown_mul_div p.granularity_pos n m
  | bToA => simp only [roundedOutput, unitIn, Direction.flip, Nat.one_mul]

namespace ScalesTo

theorem feeRate_eq (h : p.ScalesTo q) : q.feeRate = p.feeRate := by
  have hf : (q.feeRate : Int) = p.feeRate := congrArg Listing.feeRate h.terms_eq
  exact_mod_cast hf

theorem keptRate_eq (h : p.ScalesTo q) : q.keptRate = p.keptRate := by
  rw [keptRate, keptRate, h.feeRate_eq]

theorem convention_eq (h : p.ScalesTo q) : q.convention = p.convention :=
  congrArg Listing.convention h.terms_eq

theorem granularity_eq_one (h : p.ScalesTo q) : q.granularity = 1 := by
  have hg : (q.granularity : Int) = 1 := congrArg Listing.granularity h.terms_eq
  exact_mod_cast hg

theorem reserveIn_eq (h : p.ScalesTo q) (d : Direction) :
    p.reserveIn d = p.unitIn d * q.reserveIn d := by
  cases d with
  | aToB => exact h.reserveA_eq.trans (Nat.one_mul _).symm
  | bToA => exact h.reserveB_eq

theorem reserveOut_eq (h : p.ScalesTo q) (d : Direction) :
    p.reserveOut d = p.unitIn d.flip * q.reserveOut d := h.reserveIn_eq d.flip

/-- What meets the curve is the same up to units, whether the fee is taken from it or not. -/
theorem effectiveInput_eq (h : p.ScalesTo q) (d : Direction) (x : Nat) :
    p.effectiveInput d (p.unitIn d * x) = p.unitIn d * q.effectiveInput d x := by
  have hwhole := p.roundedInput_unitIn d x 1
  have hkept := p.roundedInput_unitIn d (x * p.keptRate) feeScale
  rw [Nat.div_one, Nat.div_one] at hwhole
  rw [← Nat.mul_assoc] at hkept
  unfold effectiveInput
  rw [h.convention_eq, h.keptRate_eq]
  split
  · rw [roundedInput_of_one h.granularity_eq_one, hkept]
  · rw [roundedInput_of_one h.granularity_eq_one, hwhole]

end ScalesTo

/-- **Outputs agree up to units.**  The unit of the input cancels in the curve; that of the output comes
out of the quotient. -/
theorem output_scaled (h : p.ScalesTo q) (d : Direction) (x : Nat) :
    p.output d (p.unitIn d * x) = p.unitIn d.flip * q.output d x := by
  have hu := p.unitIn_pos d
  unfold output
  rw [h.effectiveInput_eq, roundedOutput_of_one h.granularity_eq_one]
  generalize q.effectiveInput d x = taken
  unfold curveFormula
  rw [h.convention_eq, h.keptRate_eq, h.reserveIn_eq, h.reserveOut_eq, ← Nat.mul_add]
  split
  · rw [← roundedOutput_unitIn, Nat.mul_left_comm, Nat.mul_div_mul_left _ _ hu, Nat.mul_assoc]
  · rw [← roundedOutput_unitIn]
    congr 1
    calc _ = p.unitIn d * (p.unitIn d.flip * (q.reserveOut d * taken * p.keptRate)) /
          (p.unitIn d * ((q.reserveIn d + taken) * feeScale)) := by congr 1 <;> ring
      _ = _ := Nat.mul_div_mul_left _ _ hu
  · cases d <;> simp [roundedOutput, roundDown]

/-- A size that is quoted is quoted in the units of the plane: no product gets larger. -/
theorem quotable_scaled (h : p.ScalesTo q) {x : Nat} (hq : p.Quotable d (p.unitIn d * x)) :
    q.Quotable d x := by
  have hu := p.unitIn_pos d
  have hu' := p.unitIn_pos d.flip
  unfold Quotable at hq ⊢
  rw [h.effectiveInput_eq, h.reserveIn_eq, h.reserveOut_eq, ← Nat.mul_add] at hq
  rw [h.convention_eq, h.keptRate_eq]
  generalize q.effectiveInput d x = taken at *
  split at hq
  · obtain ⟨hk, hn, hz⟩ := hq
    refine ⟨?_, ?_, (Nat.mul_ne_zero_iff.1 hz).2⟩
    · calc x * p.keptRate ≤ p.unitIn d * (x * p.keptRate) := Nat.le_mul_of_pos_left _ hu
        _ = p.unitIn d * x * p.keptRate := by ring
        _ ≤ maxWord := hk
    · calc q.reserveOut d * taken
          ≤ p.unitIn d.flip * p.unitIn d * (q.reserveOut d * taken) :=
            Nat.le_mul_of_pos_left _ (Nat.mul_pos hu' hu)
        _ = p.unitIn d.flip * q.reserveOut d * (p.unitIn d * taken) := by ring
        _ ≤ maxWord := hn
  · obtain ⟨hn, hd, hz⟩ := hq
    refine ⟨?_, ?_, (Nat.mul_ne_zero_iff.1 hz).2⟩
    · calc q.reserveOut d * taken * p.keptRate
          ≤ p.unitIn d.flip * p.unitIn d * (q.reserveOut d * taken * p.keptRate) :=
            Nat.le_mul_of_pos_left _ (Nat.mul_pos hu' hu)
        _ = p.unitIn d.flip * q.reserveOut d * (p.unitIn d * taken) * p.keptRate := by ring
        _ ≤ maxWord := hn
    · calc (q.reserveIn d + taken) * feeScale
          ≤ p.unitIn d * ((q.reserveIn d + taken) * feeScale) := Nat.le_mul_of_pos_left _ hu
        _ = p.unitIn d * (q.reserveIn d + taken) * feeScale := by ring
        _ ≤ maxWord := hd
  · exact hq.elim

/-! ## Quotes and trades -/

/-- **A quote of whole units is a quote in the units of the plane.** -/
theorem quote_scaled (h : p.ScalesTo q) {x : Int} {y : Nat}
    (hq : p.quote (p.unitIn d * x) d = .ok y) :
    ∃ z, q.quote x d = .ok z ∧ y = p.unitIn d.flip * z := by
  have hu := p.unitIn_pos d
  obtain ⟨m, hm, hle, hquotable, rfl⟩ := quote_eq_ok_iff.1 hq
  have hx : 0 ≤ x := by
    by_contra hneg
    have := Int.mul_neg_of_pos_of_neg (show (0 : Int) < p.unitIn d by omega)
      (show x < 0 by omega)
    omega
  obtain ⟨n, rfl⟩ : ∃ n : Nat, x = n := ⟨x.toNat, by omega⟩
  obtain rfl : p.unitIn d * n = m := by exact_mod_cast hm
  have hn : n ≤ maxWord := (Nat.le_mul_of_pos_left n hu).trans hle
  exact ⟨_, quote_eq_ok_iff.2 ⟨n, rfl, hn, quotable_scaled h hquotable, rfl⟩, output_scaled h d n⟩

theorem unitIn_eq_of_terms_eq (h : p'.terms = p.terms) (d : Direction) :
    p'.unitIn d = p.unitIn d := by
  cases d with
  | aToB => rfl
  | bToA => exact granularity_eq_of_terms_eq h

/-- Pools stand for each other if their reserves do, in either direction. -/
theorem scalesTo_of_reserves (d : Direction) (hin : p.reserveIn d = p.unitIn d * q.reserveIn d)
    (hout : p.reserveOut d = p.unitIn d.flip * q.reserveOut d)
    (ht : q.terms = { p.terms with granularity := 1 }) : p.ScalesTo q := by
  cases d with
  | aToB => exact ⟨hin.trans (Nat.one_mul _), hout, ht⟩
  | bToA => exact ⟨hout.trans (Nat.one_mul _), hin, ht⟩

/-- **A trade of whole units leads to pools that stand for each other again.** -/
theorem trade_scaled (h : p.ScalesTo q) {x : Int} (ht : p.trade (p.unitIn d * x) d = .ok p') :
    ∃ q', q.trade x d = .ok q' ∧ p'.ScalesTo q' ∧ p'.terms = p.terms := by
  obtain ⟨y, hy, hin, hout, hterms⟩ := trade_eq_ok_iff.1 ht
  obtain ⟨z, hz, rfl⟩ := quote_scaled h hy
  have hcredit : (p'.reserveIn d : Int) = p.unitIn d * (q.reserveIn d + x) := by
    rw [hin, h.reserveIn_eq]
    push_cast
    ring
  -- what is credited in the units of the plane is no larger than what is credited in units
  have hfits : (q.reserveIn d : Int) + x ≤ maxWord := by
    have hu : (1 : Int) ≤ p.unitIn d := by exact_mod_cast p.unitIn_pos d
    have hword := (exists_trade_iff.1 ⟨p', ht⟩).2
    obtain ⟨n, rfl, -⟩ := quote_eq_ok_iff.1 hz
    nlinarith
  obtain ⟨q', hq'⟩ := exists_trade_iff.2 ⟨⟨z, hz⟩, hfits⟩
  obtain ⟨z', hz', hin', hout', hterms'⟩ := trade_eq_ok_iff.1 hq'
  obtain rfl : z = z' := by simpa [hz] using hz'
  have hdebit : (p'.reserveOut d : Int) = p.unitIn d.flip * (q.reserveOut d - z) := by
    rw [hout, h.reserveOut_eq]
    push_cast
    ring
  rw [← hin'] at hcredit
  rw [← hout'] at hdebit
  refine ⟨q', hq', scalesTo_of_reserves d ?_ ?_ ?_, hterms⟩
  · rw [unitIn_eq_of_terms_eq hterms]
    exact_mod_cast hcredit
  · rw [unitIn_eq_of_terms_eq hterms]
    exact_mod_cast hdebit
  · rw [hterms', hterms, h.terms_eq]

/-! ## Runs -/

/-- The pool after a run of trades that all succeed. -/
def tradeAll (p : Pool) (trades : List (Int × Direction)) : Except Rejection Pool :=
  trades.foldlM (fun q t => q.trade t.1 t.2) p

/-- A trade of the plane, in the units of the pool. -/
def inUnits (p : Pool) (t : Int × Direction) : Int × Direction := (p.unitIn t.2 * t.1, t.2)

/-- **A run of trades of whole units is a run on the plane**, and leads to pools that stand for each
other again. -/
theorem tradeAll_scaled (h : p.ScalesTo q) {trades : List (Int × Direction)}
    (ht : p.tradeAll (trades.map p.inUnits) = .ok p') :
    ∃ q', q.tradeAll trades = .ok q' ∧ p'.ScalesTo q' ∧ p'.terms = p.terms := by
  induction trades generalizing p q with
  | nil =>
    cases ht
    exact ⟨q, rfl, h, rfl⟩
  | cons t trades ih =>
    simp only [tradeAll, List.map_cons, List.foldlM_cons, bind_eq_ok_iff] at ht ⊢
    obtain ⟨p₁, hp₁, hrest⟩ := ht
    obtain ⟨q₁, hq₁, h₁, hterms⟩ := trade_scaled h hp₁
    -- the units are terms of the pool, so they stay what they are
    have hunits : p.inUnits = p₁.inUnits := by
      funext t
      rw [inUnits, inUnits, unitIn_eq_of_terms_eq hterms]
    rw [hunits] at hrest
    obtain ⟨q', hq', h', hterms'⟩ := ih h₁ hrest
    exact ⟨q', ⟨q₁, hq₁, hq'⟩, h', hterms'.trans hterms⟩

/-- **A pool in larger units stands for the pool of its plane.**  Whenever the one quotes, the other one
does: what is bought of asset B is the same number of units, what is sold of it in whole units brings the
same.  Every run of trades that succeeds on the one succeeds on the other, and keeps the reserves of
asset A equal and those of asset B equal up to units. -/
theorem scaled_pool_simulates (h : p.ScalesTo q) :
    (∀ (x : Int) (y : Nat), p.quote x .aToB = .ok y →
      ∃ z, q.quote x .aToB = .ok z ∧ y = p.granularity * z) ∧
    (∀ (x : Int) (y : Nat), p.quote (p.granularity * x) .bToA = .ok y →
      q.quote x .bToA = .ok y) ∧
    ∀ (trades : List (Int × Direction)) (p' : Pool),
      p.tradeAll (trades.map p.inUnits) = .ok p' →
      ∃ q', q.tradeAll trades = .ok q' ∧ p'.reserveA = q'.reserveA ∧
        p'.reserveB = p.granularity * q'.reserveB ∧ p'.ScalesTo q' := by
  refine ⟨fun x y hq => ?_, fun x y hq => ?_, fun trades p' ht => ?_⟩
  · have hq' : p.quote (p.unitIn .aToB * x) .aToB = .ok y := by simpa [unitIn] using hq
    exact quote_scaled h hq'
  · obtain ⟨z, hz, rfl⟩ := quote_scaled (d := .bToA) h hq
    simpa [unitIn, Direction.flip] using hz
  · obtain ⟨q', hq', h', hterms⟩ := tradeAll_scaled h ht
    have hg : p'.granularity = p.granularity := unitIn_eq_of_terms_eq hterms .bToA
    exact ⟨q', hq', h'.reserveA_eq, hg ▸ h'.reserveB_eq, h'⟩

/-- A pool that gives asset B in tens, and a run that buys and sells back. -/
theorem sample_simulated :
    let trades : List (Int × Direction) := [(1000, .aToB), (199, .bToA)]
    sample.ScalesTo sample.scaledDown ∧
    (sample.quote 1000 .aToB = .ok 1990 ∧
      ∃ z, sample.scaledDown.quote 1000 .aToB = .ok z ∧ 1990 = sample.granularity * z) ∧
    (∃ p', sample.tradeAll (trades.map sample.inUnits) = .ok p' ∧
      ∃ q', sample.scaledDown.tradeAll trades = .ok q' ∧ p'.reserveA = q'.reserveA ∧
        p'.reserveB = sample.granularity * q'.reserveB) := by
  intro trades
  have hs : sample.ScalesTo sample.scaledDown := scalesTo_iff.2 ⟨by decide, rfl⟩
  have hquote : sample.quote 1000 .aToB = .ok 1990 := by decide +kernel
  have hrun : (sample.tradeAll (trades.map sample.inUnits)).isOk = true := by decide +kernel
  refine ⟨hs, ⟨hquote, (scaled_pool_simulates hs).1 _ _ hquote⟩, ?_⟩
  cases h : sample.tradeAll (trades.map sample.inUnits) with
  | error e => simp [h, Except.isOk, Except.toBool] at hrun
  | ok p' =>
    obtain ⟨q', hq', hA, hB, -⟩ := (scaled_pool_simulates hs).2.2 _ _ h
    exact ⟨p', rfl, q', hq', hA, hB⟩

end CrossVenue.Pool
