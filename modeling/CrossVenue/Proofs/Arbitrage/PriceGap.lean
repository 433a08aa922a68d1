import CrossVenue.Proofs.Arbitrage.Plan

/-!
# There is no profit without a price gap

Both quotes of a round trip stay below their curves, so a round trip gains only if the source is strictly
cheaper than the target, by more than what the trade itself moves.

* `gap_of_profit` : what the curves leave room for;
* `no_profit_without_gap` : the same of every round trip that is quoted, and of the best size.
-/

set_option autoImplicit false

namespace CrossVenue

/-- A round trip below both curves that gains something has a gap between the prices to gain it from. -/
theorem gap_of_profit {a1 b1 a2 b2 x y z : Nat} (ha : 0 < a1) (hb : 0 < b2)
    (hy : y * (a1 + x) ≤ b1 * x) (hz : z * (b2 + y) ≤ a2 * y) (hxz : x < z) :
    x * (b1 + b2) + a1 * b2 < a2 * b1 := by
  have hgain : (x + 1) * (b2 + y) ≤ a2 * y := (Nat.mul_le_mul_right _ hxz).trans hz
  -- something comes out of the first pool, for otherwise nothing comes out of the second
  have hypos : 0 < y := by
    refine Nat.pos_of_ne_zero fun h0 => ?_
    subst h0
    have : 0 < (x + 1) * (b2 + 0) := by positivity
    omega
  have hxa : x + 1 ≤ a2 := by
    by_contra hlt
    have := Nat.mul_le_mul_right y (show a2 ≤ x by omega)
    nlinarith
  obtain ⟨rest, rfl⟩ := Nat.exists_eq_add_of_le hxa
  have hroom : (x + 1) * b2 ≤ rest * y := by nlinarith
  have hscaled : (x + 1) * b2 * (a1 + x) ≤ rest * (b1 * x) :=
    calc (x + 1) * b2 * (a1 + x) ≤ rest * y * (a1 + x) := Nat.mul_le_mul_right _ hroom
      _ = rest * (y * (a1 + x)) := Nat.mul_assoc _ _ _
      _ ≤ rest * (b1 * x) := Nat.mul_le_mul_left _ hy
  have hxpos : 0 < x := by
    refine Nat.pos_of_ne_zero fun h0 => ?_
    subst h0
    have : 0 < y * (a1 + 0) := by positivity
    omega
  nlinarith

/-- **A round trip gains nothing, and has no positive best size, without a strict price gap.**  So no two
pools have positive sizes in both directions, and pools of one price have none. -/
theorem no_profit_without_gap {policy : Policy} (hp : policy.InRange) {source target : Pool}
    (ha : 0 < source.reserveA) (hb : 0 < target.reserveB) :
    (∀ (x : Int) (first second : Nat), roundTrip source target x = .ok (first, second) →
      x < second →
      x * (source.reserveB + target.reserveB) <
        target.reserveA * source.reserveB - source.reserveA * target.reserveB) ∧
    (∀ x, optimalTradeSize policy source target = .ok x → 0 < x →
      source.reserveA * target.reserveB < target.reserveA * source.reserveB) ∧
    (∀ x y, optimalTradeSize policy source target = .ok x →
      optimalTradeSize policy target source = .ok y → ¬ (0 < x ∧ 0 < y)) ∧
    (source.reserveA * target.reserveB = target.reserveA * source.reserveB →
      (∀ x, optimalTradeSize policy source target = .ok x → x ≤ 0) ∧
      ∀ y, optimalTradeSize policy target source = .ok y → y ≤ 0) := by
  have hgap : ∀ {p q : Pool} {x : Int}, optimalTradeSize policy p q = .ok x → 0 < x →
      p.reserveA * q.reserveB < q.reserveA * p.reserveB :=
    fun h hx => (optimalTradeSize_sized hp h hx).price_lt
  refine ⟨fun x first second hr hgain => ?_, fun x h hx => hgap h hx, fun x y h h' => ?_,
    fun he => ⟨fun x h => ?_, fun y h => ?_⟩⟩
  · obtain ⟨hq, hq'⟩ := roundTrip_eq_ok_iff.1 hr
    obtain ⟨x, rfl, -, -, rfl⟩ := Pool.quote_eq_ok_iff.1 hq
    obtain ⟨y, hxy, -, -, rfl⟩ := Pool.quote_eq_ok_iff.1 hq'
    obtain rfl : source.output .aToB x = y := by exact_mod_cast hxy
    have hlt := gap_of_profit ha hb (source.output_mul_le .aToB x) (target.output_mul_le .bToA _)
      (by exact_mod_cast hgain)
    show (x : Int) * (source.reserveB + target.reserveB) < _
    have hlt' : (x : Int) * (source.reserveB + target.reserveB) +
        source.reserveA * target.reserveB < target.reserveA * source.reserveB := by
      exact_mod_cast hlt
    omega
  · rintro ⟨hx, hy⟩
    have h1 := hgap h hx
    have h2 := hgap h' hy
    omega
  · exact optimalTradeSize_nonpos hp h he.ge
  · exact optimalTradeSize_nonpos hp h he.le

theorem no_profit_without_gap_ether :
    (Policy.default.InRange ∧ 0 < etherSeller.reserveA ∧ 0 < etherBuyer.reserveB ∧
      roundTrip etherSeller etherBuyer 20000000000 = .ok (6556291390728476821, 20822768697)) ∧
    (20000000000 : Int) * (etherSeller.reserveB + etherBuyer.reserveB) <
      etherBuyer.reserveA * etherSeller.reserveB - etherSeller.reserveA * etherBuyer.reserveB :=
  have ha : 0 < etherSeller.reserveA := by decide
  have hb : 0 < etherBuyer.reserveB := by decide
  have hr : roundTrip etherSeller etherBuyer 20000000000 =
      .ok (6556291390728476821, 20822768697) := by decide +kernel
  ⟨⟨default_inRange, ha, hb, hr⟩,
    (no_profit_without_gap default_inRange ha hb).1 _ _ _ hr (by decide)⟩

end CrossVenue
