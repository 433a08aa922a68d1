import CrossVenue.Proofs.Arbitrage.Plan

/-!
# A plan stops short of the equilibrium

The trades of a plan bring the prices of both pools closer together and never past each other, so there
is nothing left to gain in the opposite direction.

* `order_kept_of_reserves` : trades below the curves of both pools keep the order of their prices;
* `plan_keeps_price_order` : so do the trades of a plan, and no plan leads back.
-/

set_option autoImplicit false

namespace CrossVenue

/-- Trades below the curve on both pools keep the order of prices, as long as the fee-free round trip
does: `n` stands for the price reached without fees, in units of the input reserve. -/
theorem order_kept_of_reserves {a1 b1 a2 b2 n x y z : Nat} (hyb : y ≤ b1) (hza : z ≤ a2)
    (hn : n = a1 * b2 + (b1 + b2) * x) (hsq : n ^ 2 ≤ a1 * b1 * (a2 * b2))
    (hy : y * (a1 + x) ≤ b1 * x) (hz : z * (b2 + y) ≤ a2 * y) :
    (a1 + x) * (b2 + y) ≤ (a2 - z) * (b1 - y) := by
  obtain ⟨b1', rfl⟩ := Nat.exists_eq_add_of_le hyb
  obtain ⟨a2', rfl⟩ := Nat.exists_eq_add_of_le hza
  rw [Nat.add_sub_cancel_left, Nat.add_sub_cancel_left]
  -- the target's price stays below its curve, the source's above it
  have htarget : (z + a2') * b2 ≤ a2' * (b2 + y) := by nlinarith
  have hsource : a1 * (y + b1') ≤ (a1 + x) * b1' := by nlinarith
  have hreach : (a1 + x) * (b2 + y) ≤ n := by nlinarith
  by_contra hlt
  have hlt : a2' * b1' < (a1 + x) * (b2 + y) := Nat.lt_of_not_le hlt
  have hfar : 0 < (a1 + x) * (b2 + y) := by omega
  -- the fee-free bound, carried over to the reserves that are left
  have hchain : ((a1 + x) * (b2 + y)) ^ 2 ≤ (a1 + x) * b1' * (a2' * (b2 + y)) :=
    calc ((a1 + x) * (b2 + y)) ^ 2 ≤ n ^ 2 := Nat.pow_le_pow_left hreach 2
      _ ≤ a1 * (y + b1') * ((z + a2') * b2) := hsq
      _ ≤ (a1 + x) * b1' * (a2' * (b2 + y)) := Nat.mul_le_mul hsource htarget
  have hcross : (a1 + x) * b1' * (a2' * (b2 + y)) = (a1 + x) * (b2 + y) * (a2' * b1') := by ring
  rw [hcross, sq] at hchain
  exact absurd (Nat.le_of_mul_le_mul_left hchain hfar) (Nat.not_le_of_lt hlt)

/-- **Executing a plan never passes the equilibrium of prices, so no plan leads back.** -/
theorem plan_keeps_price_order {policy : Policy} (hp : policy.InRange) {source target : Pool}
    {balance minProfit : Int} {plan : Plan}
    (h : solve policy source target balance minProfit = .ok (.plan plan)) {source' target' : Pool}
    (hs : source.trade plan.executeAmount .aToB = .ok source')
    (ht : target.trade plan.firstOutput .bToA = .ok target') :
    source'.reserveA * target'.reserveB ≤ target'.reserveA * source'.reserveB ∧
      ∀ (balance' minProfit' : Int) (plan' : Plan),
        solve policy target' source' balance' minProfit' ≠ .ok (.plan plan') := by
  obtain ⟨optimal, hopt, ⟨hpos, -⟩, -, hmin, first, second, hr, -, rfl⟩ := solve_eq_plan_iff.1 h
  simp only at hs ht
  obtain ⟨hq, hq'⟩ := roundTrip_eq_ok_iff.1 hr
  obtain ⟨hsA, hsB, htB, htA⟩ := reserves_of_trades hq hq' hs ht
  obtain ⟨x, hx, -, -, hy⟩ := Pool.quote_eq_ok_iff.1 hq
  obtain ⟨y, hxy, -, -, hz⟩ := Pool.quote_eq_ok_iff.1 hq'
  have hxy : first = y := by exact_mod_cast hxy
  subst hxy
  rw [hx] at hsA
  have hsized : Sized source target x :=
    (optimalTradeSize_sized hp hopt hpos).mono (by omega) (by omega)
  have hkept : source'.reserveA * target'.reserveB ≤ target'.reserveA * source'.reserveB := by
    have hcurve := source.output_mul_le .aToB x
    have hcurve' := target.output_mul_le .bToA first
    have hfirst : first ≤ source.reserveB := hy ▸ source.output_le_reserveOut .aToB x
    have hsecond : second ≤ target.reserveA := hz ▸ target.output_le_reserveOut .bToA first
    rw [← hy] at hcurve
    rw [← hz] at hcurve'
    have hk := order_kept_of_reserves hfirst hsecond rfl hsized.square_le hcurve hcurve'
    have e1 : source'.reserveA = source.reserveA + x := by omega
    have e2 : source'.reserveB = source.reserveB - first := by omega
    have e3 : target'.reserveB = target.reserveB + first := by omega
    have e4 : target'.reserveA = target.reserveA - second := by omega
    rw [e1, e2, e3, e4]
    exact hk
  refine ⟨hkept, fun balance' minProfit' plan' hback => ?_⟩
  obtain ⟨optimal', hopt', ⟨hpos', -⟩, -⟩ := solve_eq_plan_iff.1 hback
  have hnone := optimalTradeSize_nonpos hp hopt' hkept
  omega

/-- The seller of ether after the plan's first trade. -/
def etherSellerAfter : Pool :=
  { etherSeller with
    reserveA := 3020000000000
    reserveB := 993443708609271523179
    reserveA_le := by decide
    reserveB_le := by decide }

/-- The buyer of ether after the plan's second trade. -/
def etherBuyerAfter : Pool :=
  { etherBuyer with
    reserveA := 3179177231303
    reserveB := 1006556291390728476821
    reserveA_le := by decide
    reserveB_le := by decide }

theorem etherSeller_trade : etherSeller.trade 20000000000 .aToB = .ok etherSellerAfter :=
  Pool.trade_eq_ok_iff.2 ⟨6556291390728476821, by decide +kernel, by decide, by decide, rfl⟩

theorem etherBuyer_trade : etherBuyer.trade 6556291390728476821 .bToA = .ok etherBuyerAfter :=
  Pool.trade_eq_ok_iff.2 ⟨20822768697, by decide +kernel, by decide, by decide, rfl⟩

theorem ether_order_kept :
    (Policy.default.InRange ∧
      solve .default etherSeller etherBuyer 20000000000 0 = .ok (.plan etherPlan) ∧
      etherSeller.trade etherPlan.executeAmount .aToB = .ok etherSellerAfter ∧
      etherBuyer.trade etherPlan.firstOutput .bToA = .ok etherBuyerAfter) ∧
    etherSellerAfter.reserveA * etherBuyerAfter.reserveB ≤
        etherBuyerAfter.reserveA * etherSellerAfter.reserveB ∧
      ∀ (balance' minProfit' : Int) (plan' : Plan),
        solve .default etherBuyerAfter etherSellerAfter balance' minProfit' ≠ .ok (.plan plan') :=
  ⟨⟨default_inRange, solve_ether, etherSeller_trade, etherBuyer_trade⟩,
    plan_keeps_price_order default_inRange solve_ether etherSeller_trade etherBuyer_trade⟩

end CrossVenue
