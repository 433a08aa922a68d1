import CrossVenue.Proofs.Pool.Quote

/-!
# Quotes are monotone

A larger input, a lower fee, less of what goes in and more of what comes out never make an output smaller.
All roundings keep this order: that of the fee, that of the curve and that of the granularity.  The
products that a quote checks grow with its input too, so a size is quoted whenever a larger one is, unless
nothing meets the curve of a pool that holds nothing of what goes in.

* `NoBetter.output_le` : a pool that is no better gives no more, for no more;
* `output_lt_reserveOut` : no pool gives all that it has;
* `exists_quote_iff_of_le` : which sizes are quoted below one that is.
-/

set_option autoImplicit false

namespace CrossVenue

theorem roundDown_mono {x x' : Nat} (h : x ≤ x') (granularity : Nat) :
    roundDown x granularity ≤ roundDown x' granularity :=
  Nat.mul_le_mul_right granularity (Nat.div_le_div_right h)

namespace Pool

variable {p q : Pool} {d : Direction} {x x' : Nat}

/-- The first pool is no better to trade on than the second: it rounds alike, takes no lower a fee, and
holds no less of what goes in and no more of what comes out. -/
structure NoBetter (p q : Pool) (d : Direction) : Prop where
  convention_eq : p.convention = q.convention
  granularity_eq : p.granularity = q.granularity
  feeRate_le : q.feeRate ≤ p.feeRate
  reserveIn_le : q.reserveIn d ≤ p.reserveIn d
  reserveOut_le : p.reserveOut d ≤ q.reserveOut d

/-- A hyperbola that rises to `c` rises in whole numbers too: what is added to `t` counts as much below
as it can above. -/
theorem hyperbola_mono (c a : Nat) {t t' : Nat} (h : t ≤ t') : c * t / (a + t) ≤ c * t' / (a + t') := by
  rcases Nat.eq_zero_or_pos (a + t) with hz | hpos
  · rw [hz, Nat.div_zero]
    exact Nat.zero_le _
  · obtain ⟨more, rfl⟩ := Nat.exists_eq_add_of_le h
    have hq := Nat.div_mul_le_self (c * t) (a + t)
    have hc : c * t / (a + t) ≤ c :=
      Nat.div_le_of_le_mul (Nat.mul_comm c (a + t) ▸ Nat.mul_le_mul_left c (Nat.le_add_left t a))
    rw [Nat.le_div_iff_mul_le (by omega)]
    calc c * t / (a + t) * (a + (t + more))
        = c * t / (a + t) * (a + t) + c * t / (a + t) * more := by ring
      _ ≤ c * t + c * more := Nat.add_le_add hq (Nat.mul_le_mul_right more hc)
      _ = c * (t + more) := by ring

/-- What the curve gives rises with what it holds to give and with what meets it, and falls with what it
holds already. -/
theorem hyperbola_le {c c' a a' t t' : Nat} (hc : c ≤ c') (ha : a' ≤ a) (ht : t ≤ t') :
    c * t / (a + t) ≤ c' * t' / (a' + t') := by
  rcases Nat.eq_zero_or_pos t' with rfl | hpos
  · obtain rfl : t = 0 := Nat.le_zero.1 ht
    simp
  · calc c * t / (a + t) ≤ c * t' / (a + t') := hyperbola_mono c a ht
      _ ≤ c' * t' / (a + t') := Nat.div_le_div_right (Nat.mul_le_mul_right t' hc)
      _ ≤ c' * t' / (a' + t') := Nat.div_le_div_left (Nat.add_le_add_right ha t') (by omega)

namespace NoBetter

theorem refl (p : Pool) (d : Direction) : p.NoBetter p d :=
  ⟨rfl, rfl, Nat.le_refl _, Nat.le_refl _, Nat.le_refl _⟩

theorem keptRate_le (h : p.NoBetter q d) : p.keptRate ≤ q.keptRate :=
  Nat.sub_le_sub_left h.feeRate_le feeScale

theorem roundedInput_le (h : p.NoBetter q d) (hx : x ≤ x') :
    p.roundedInput d x ≤ q.roundedInput d x' := by
  cases d with
  | aToB => exact hx
  | bToA =>
    rw [roundedInput, roundedInput, h.granularity_eq]
    exact roundDown_mono hx _

theorem roundedOutput_le (h : p.NoBetter q d) (hx : x ≤ x') :
    p.roundedOutput d x ≤ q.roundedOutput d x' := by
  cases d with
  | aToB =>
    rw [roundedOutput, roundedOutput, h.granularity_eq]
    exact roundDown_mono hx _
  | bToA => exact hx

/-- No more of an input meets the curve. -/
theorem effectiveInput_le (h : p.NoBetter q d) (hx : x ≤ x') :
    p.effectiveInput d x ≤ q.effectiveInput d x' := by
  unfold effectiveInput
  rw [h.convention_eq]
  split
  · exact h.roundedInput_le (Nat.div_le_div_right (Nat.mul_le_mul hx h.keptRate_le))
  · exact h.roundedInput_le hx

/-- The curve gives no more.  A fee on the output is a lower curve. -/
theorem curveFormula_le (h : p.NoBetter q d) {t t' : Nat} (ht : t ≤ t') :
    p.curveFormula d t ≤ q.curveFormula d t' := by
  unfold curveFormula
  rw [h.convention_eq]
  split
  · exact hyperbola_le h.reserveOut_le h.reserveIn_le ht
  · rw [← Nat.div_div_eq_div_mul, ← Nat.div_div_eq_div_mul, Nat.mul_right_comm _ t,
      Nat.mul_right_comm _ t']
    exact Nat.div_le_div_right
      (hyperbola_le (Nat.mul_le_mul h.reserveOut_le h.keptRate_le) h.reserveIn_le ht)
  · exact Nat.le_refl 0

/-- **A pool that is no better gives no more, for no more.** -/
theorem output_le (h : p.NoBetter q d) (hx : x ≤ x') : p.output d x ≤ q.output d x' :=
  h.roundedOutput_le (h.curveFormula_le (h.effectiveInput_le hx))

theorem quote_le (h : p.NoBetter q d) {x x' : Int} {y y' : Nat} (hx : x ≤ x')
    (hy : p.quote x d = .ok y) (hy' : q.quote x' d = .ok y') : y ≤ y' := by
  obtain ⟨n, rfl, -, -, rfl⟩ := quote_eq_ok_iff.1 hy
  obtain ⟨n', rfl, -, -, rfl⟩ := quote_eq_ok_iff.1 hy'
  exact h.output_le (by exact_mod_cast hx)

end NoBetter

/-- The more of an input meets the curve, the more the curve gives. -/
theorem curveFormula_mono (p : Pool) (d : Direction) {t t' : Nat} (h : t ≤ t') :
    p.curveFormula d t ≤ p.curveFormula d t' := (NoBetter.refl p d).curveFormula_le h

/-! ## No pool is emptied -/

theorem curveFormula_lt (hin : 0 < p.reserveIn d) (hout : 0 < p.reserveOut d) (taken : Nat) :
    p.curveFormula d taken < p.reserveOut d := by
  have hcurve := p.curveFormula_mul_le d taken
  have hroom : p.reserveOut d * taken < p.reserveOut d * (p.reserveIn d + taken) :=
    Nat.mul_lt_mul_of_pos_left (Nat.lt_add_of_pos_left hin) hout
  exact Nat.lt_of_mul_lt_mul_right (hcurve.trans_lt hroom)

/-- **No pool gives all that it has**, if it holds something of what goes in. -/
theorem output_lt_reserveOut (hin : 0 < p.reserveIn d) (hout : 0 < p.reserveOut d) (x : Nat) :
    p.output d x < p.reserveOut d :=
  (p.roundedOutput_le d _).trans_lt (curveFormula_lt hin hout _)

/-! ## Smaller sizes are quoted -/

/-- The products that a quote checks grow with its input. -/
theorem Quotable.of_le (h : p.Quotable d x') (hx : x ≤ x')
    (hmet : p.reserveIn d + p.effectiveInput d x ≠ 0) : p.Quotable d x := by
  have ht : p.effectiveInput d x ≤ p.effectiveInput d x' := (NoBetter.refl p d).effectiveInput_le hx
  unfold Quotable at h ⊢
  split at h
  · obtain ⟨hkept, hnumerator, -⟩ := h
    exact ⟨(Nat.mul_le_mul_right _ hx).trans hkept, (Nat.mul_le_mul_left _ ht).trans hnumerator, hmet⟩
  · obtain ⟨hnumerator, hdenominator, -⟩ := h
    exact ⟨(Nat.mul_le_mul_right _ (Nat.mul_le_mul_left _ ht)).trans hnumerator,
      (Nat.mul_le_mul_right _ (Nat.add_le_add_left ht _)).trans hdenominator, hmet⟩
  · exact h

/-- **Below a size that is quoted, all sizes are**, unless the pool holds nothing of what goes in and
nothing meets its curve. -/
theorem exists_quote_iff_of_le {x x' : Int} {y' : Nat} (h : p.quote x' d = .ok y') (h0 : 0 ≤ x)
    (hx : x ≤ x') :
    (∃ y, p.quote x d = .ok y) ↔ 0 < p.reserveIn d ∨ 0 < p.effectiveInput d x.toNat := by
  obtain ⟨n', rfl, hword, hquotable, -⟩ := quote_eq_ok_iff.1 h
  obtain ⟨n, rfl⟩ : ∃ n : Nat, x = n := ⟨x.toNat, by omega⟩
  have hn : n ≤ n' := by omega
  rw [Int.toNat_natCast]
  constructor
  · rintro ⟨y, hy⟩
    obtain ⟨m, hm, -, hq, -⟩ := quote_eq_ok_iff.1 hy
    obtain rfl : n = m := by exact_mod_cast hm
    have hmet := hq.met
    omega
  · intro hmet
    exact ⟨_, quote_eq_ok_iff.2 ⟨n, rfl, hn.trans hword, hquotable.of_le hn (by omega), rfl⟩⟩

end Pool

end CrossVenue
