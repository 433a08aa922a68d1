import CrossVenue.Proofs.Arbitrage.Sizing
import CrossVenue.Proofs.Pool.Trade
import CrossVenue.Registry.Builtin

/-!
# What a plan promises

A plan is worth its words: both of its trades can be executed at the sizes that it names, and they move
exactly the amounts that it quotes.

* `estimateLine_isWritable`, `executedLine_isWritable` : the lines that are written of a round trip;
* `solve_eq_plan_iff` : when a round trip is planned, and the plan;
* `buy_executes`, `sell_executes` : the trades of a round trip that is sized succeed;
* `solve_plan_sound` : every plan is sound, executable and conserves both assets.
-/

set_option autoImplicit false

namespace CrossVenue

/-- What a plan says, and what its two trades do to the pools. -/
structure Plan.Sound (policy : Policy) (source target : Pool) (balance minProfit : Int)
    (plan : Plan) : Prop where
  source_eq : plan.source = source
  target_eq : plan.target = target
  optimal : optimalTradeSize policy source target = .ok plan.optimalAmount
  execute_pos : 0 < plan.executeAmount
  execute_le : plan.executeAmount ≤ min plan.optimalAmount balance
  first_quote : source.quote plan.executeAmount .aToB = .ok plan.firstOutput
  second_quote : target.quote plan.firstOutput .bToA = .ok plan.secondOutput
  profit_eq : plan.profit = plan.secondOutput - plan.executeAmount
  profit_gt : minProfit < plan.profit
  /-- Both trades succeed, and lead to pools that hold what they held before, less the profit. -/
  settles : ∃ source' target', source.trade plan.executeAmount .aToB = .ok source' ∧
    target.trade plan.firstOutput .bToA = .ok target' ∧
    source'.reserveB + target'.reserveB = source.reserveB + target.reserveB ∧
    (source'.reserveA + target'.reserveA : Int) =
      source.reserveA + target.reserveA - plan.profit ∧
    source.reserveA * source.reserveB ≤ source'.reserveA * source'.reserveB ∧
    target.reserveA * target.reserveB ≤ target'.reserveA * target'.reserveB

/-! ## What is written -/

theorem roundTrip_eq_ok_iff {source target : Pool} {x : Int} {first second : Nat} :
    roundTrip source target x = .ok (first, second) ↔
      source.quote x .aToB = .ok first ∧ target.quote first .bToA = .ok second := by
  simp only [roundTrip, bind_eq_ok_iff, Except.ok.injEq, Prod.mk.injEq]
  constructor
  · rintro ⟨_, h1, _, h2, rfl, rfl⟩
    exact ⟨h1, h2⟩
  · rintro ⟨h1, h2⟩
    exact ⟨first, h1, second, h2, rfl, rfl⟩

theorem holdFor_eq_ok_iff {reason : NoTradeReason} {optimal projected : Int} {outcome : Outcome} :
    holdFor reason optimal projected = .ok outcome ↔
      reason.sentence.isWritable = true ∧ outcome = .noTrade ⟨reason, optimal, projected⟩ := by
  simp only [holdFor, bind_eq_ok_iff, requireWritable_eq_ok_iff, exists_const, Except.ok.injEq,
    @eq_comm _ outcome]

/-- What a word gains over a size that is not negative is no longer than the longer one of them. -/
theorem isWritable_gain {x : Int} {second : Nat} (h0 : 0 ≤ x) (hsecond : second ≤ maxWord)
    (hx : Number.isWritable x = true) : Number.isWritable (second - x : Int) = true := by
  have hwords : maxWord < Number.tooLong :=
    Number.maxWord_le_widest.trans_lt Number.widest_lt_tooLong
  rw [Number.isWritable_iff] at hx ⊢
  omega

section

variable {source target : Pool} {x : Int} {first second : Nat}

/-- A round trip is only quoted for a size that is not negative, and gives words. -/
theorem roundTrip_words (h : roundTrip source target x = .ok (first, second)) :
    0 ≤ x ∧ first ≤ maxWord ∧ second ≤ maxWord := by
  obtain ⟨hfirst, hsecond⟩ := roundTrip_eq_ok_iff.1 h
  obtain ⟨n, rfl, -⟩ := Pool.quote_eq_ok_iff.1 hfirst
  exact ⟨Int.natCast_nonneg n, Pool.quote_le hfirst, Pool.quote_le hsecond⟩

/-- **The line on what a size gives can be written exactly if the size can.** -/
theorem estimateLine_isWritable (h : roundTrip source target x = .ok (first, second)) :
    (estimateLine [source.venue] [target.venue] x first (second - x : Int)).isWritable =
      Number.isWritable x := by
  obtain ⟨h0, hfirst, hsecond⟩ := roundTrip_words h
  have hgain := isWritable_gain h0 hsecond
  have hword := Number.isWritable_of_le_maxWord hfirst
  cases hx : Number.isWritable x <;> simp [estimateLine, hx, hword, hgain]

/-- So can the line on what is executed. -/
theorem executedLine_isWritable (h : roundTrip source target x = .ok (first, second)) :
    (executedLine [source.venue] [target.venue] x first second (second - x : Int)).isWritable =
      Number.isWritable x := by
  obtain ⟨h0, hfirst, hsecond⟩ := roundTrip_words h
  have hgain := isWritable_gain h0 hsecond
  have hword := Number.isWritable_of_le_maxWord hfirst
  have hword' := Number.isWritable_of_le_maxWord hsecond
  cases hx : Number.isWritable x <;> simp [executedLine, hx, hword, hword', hgain]

end

/-- A part of a size that can be written can be written too. -/
theorem isWritable_of_le {x y : Int} (h0 : 0 ≤ x) (hle : x ≤ y) (hy : Number.isWritable y = true) :
    Number.isWritable x = true := by
  rw [Number.isWritable_iff] at hy ⊢
  omega

/-! ## When a round trip is planned -/

theorem sizeForBalance_eq_plan_iff {source target : Pool} {optimal projected balance minProfit : Int}
    {plan : Plan} :
    sizeForBalance source target optimal projected balance minProfit = .ok (.plan plan) ↔
      0 < min optimal balance ∧ Number.isWritable (min optimal balance) = true ∧ ∃ first second,
        roundTrip source target (min optimal balance) = .ok (first, second) ∧
          minProfit < second - min optimal balance ∧
          plan = ⟨source, target, optimal, min optimal balance, first, second⟩ := by
  simp only [sizeForBalance]
  split
  · rename_i hle
    simp only [holdFor_eq_ok_iff, reduceCtorEq, and_false, false_iff]
    omega
  · rename_i hpos
    simp only [bind_eq_ok_iff, lift_eq_ok_iff]
    constructor
    · rintro ⟨⟨first, second⟩, hr, h⟩
      simp only at h
      split at h
      · cases (holdFor_eq_ok_iff.1 h).2
      · simp only [bind_eq_ok_iff, requireWritable_eq_ok_iff, executedLine_isWritable hr] at h
        obtain ⟨-, hwritten, h⟩ := h
        cases h
        exact ⟨by omega, hwritten, first, second, hr, by omega, rfl⟩
    · rintro ⟨-, hwritten, first, second, hr, hprofit, rfl⟩
      refine ⟨(first, second), hr, ?_⟩
      simp only
      rw [if_neg (by omega), requireWritable_bind, executedLine_isWritable hr, if_pos hwritten]

/-- **When the solver plans, and what it plans.** -/
theorem solve_eq_plan_iff {policy : Policy} {source target : Pool} {balance minProfit : Int}
    {plan : Plan} :
    solve policy source target balance minProfit = .ok (.plan plan) ↔
      ∃ optimal, optimalTradeSize policy source target = .ok optimal ∧
        (0 < optimal ∧ Number.isWritable optimal = true) ∧
        (∃ first second, roundTrip source target optimal = .ok (first, second) ∧
          minProfit < second - optimal) ∧
        0 < min optimal balance ∧ ∃ first second,
          roundTrip source target (min optimal balance) = .ok (first, second) ∧
            minProfit < second - min optimal balance ∧
            plan = ⟨source, target, optimal, min optimal balance, first, second⟩ := by
  simp only [solve, bind_eq_ok_iff]
  refine exists_congr fun optimal => and_congr_right fun _ => ?_
  split
  · rename_i hle
    simp only [bind_eq_ok_iff, holdFor_eq_ok_iff, reduceCtorEq, and_false, exists_false, false_iff]
    omega
  · rename_i hpos
    simp only [bind_eq_ok_iff, lift_eq_ok_iff]
    constructor
    · rintro ⟨⟨first, second⟩, hr, h⟩
      simp only [requireWritable_eq_ok_iff, estimateLine_isWritable hr] at h
      obtain ⟨-, hwritten, h⟩ := h
      split at h
      · cases (holdFor_eq_ok_iff.1 h).2
      · obtain ⟨hmin, -, hplan⟩ := sizeForBalance_eq_plan_iff.1 h
        exact ⟨⟨by omega, hwritten⟩, ⟨first, second, hr, by omega⟩, hmin, hplan⟩
    · rintro ⟨⟨-, hwritten⟩, ⟨first, second, hr, hprofit⟩, hmin, hplan⟩
      have hpart := isWritable_of_le hmin.le (Int.min_le_left _ _) hwritten
      rw [← estimateLine_isWritable hr] at hwritten
      refine ⟨(first, second), hr, (), requireWritable_eq_ok_iff.2 hwritten, ?_⟩
      simp only
      rw [if_neg (by omega)]
      exact sizeForBalance_eq_plan_iff.2 ⟨hmin, hpart, hplan⟩

/-! ## Both trades can be executed -/

/-- The first trade of a sized round trip succeeds once it is quoted. -/
theorem buy_executes {source target : Pool} {x first : Nat} (hs : Sized source target x)
    (hq : source.quote x .aToB = .ok first) : ∃ source', source.trade x .aToB = .ok source' := by
  have hc := hs.credit_le
  refine Pool.exists_trade_iff.2 ⟨⟨first, hq⟩, ?_⟩
  show (source.reserveA : Int) + x ≤ maxWord
  omega

/-- The second trade succeeds too.  What it credits is no part of any quote: the deviation bounds the
reserve of the target, the curve's numerator what the source gives. -/
theorem sell_executes {source target : Pool} {x first second : Nat} (hs : Sized source target x)
    (hq : source.quote x .aToB = .ok first) (hq' : target.quote first .bToA = .ok second) :
    ∃ target', target.trade first .bToA = .ok target' := by
  have hhalf := Pool.quote_half_le hq hs.sourceA_pos
  have hcross := hs.cross_le
  have ha := hs.sourceA_pos
  have hB : 2 * target.reserveB ≤ maxWord := by
    calc 2 * target.reserveB ≤ feeScale * target.reserveB := Nat.mul_le_mul_right _ (by decide)
      _ = 1 * target.reserveB * feeScale := by ring
      _ ≤ source.reserveA * target.reserveB * feeScale :=
        Nat.mul_le_mul_right _ (Nat.mul_le_mul_right _ ha)
      _ ≤ maxWord := hcross
  refine Pool.exists_trade_iff.2 ⟨⟨second, hq'⟩, ?_⟩
  show (target.reserveB : Int) + first ≤ maxWord
  omega

/-- What the two trades of a round trip do to the reserves of both pools. -/
theorem reserves_of_trades {source target source' target' : Pool} {x : Int} {first second : Nat}
    (hq : source.quote x .aToB = .ok first) (hq' : target.quote first .bToA = .ok second)
    (hs : source.trade x .aToB = .ok source') (ht : target.trade first .bToA = .ok target') :
    (source'.reserveA : Int) = source.reserveA + x ∧
      (source'.reserveB : Int) = source.reserveB - first ∧
      (target'.reserveB : Int) = target.reserveB + first ∧
      (target'.reserveA : Int) = target.reserveA - second := by
  obtain ⟨y, hy, hsA, hsB, -⟩ := Pool.trade_eq_ok_iff.1 hs
  obtain ⟨z, hz, htB, htA, -⟩ := Pool.trade_eq_ok_iff.1 ht
  rw [hq, Except.ok.injEq] at hy
  rw [hq', Except.ok.injEq] at hz
  subst hy hz
  exact ⟨hsA, hsB, htB, htA⟩

/-- **Every plan is sound, can be executed, and conserves both assets but for its profit.** -/
theorem solve_plan_sound {policy : Policy} (hp : policy.InRange) {source target : Pool}
    {balance minProfit : Int} {plan : Plan}
    (h : solve policy source target balance minProfit = .ok (.plan plan)) :
    plan.Sound policy source target balance minProfit := by
  obtain ⟨optimal, hopt, ⟨hpos, -⟩, -, hmin, first, second, hr, hprofit, rfl⟩ := solve_eq_plan_iff.1 h
  obtain ⟨hq, hq'⟩ := roundTrip_eq_ok_iff.1 hr
  -- what is executed is a natural number, and is sized because the best size is
  obtain ⟨x, hx⟩ : ∃ x : Nat, min optimal balance = x := ⟨(min optimal balance).toNat, by omega⟩
  have hsized : Sized source target x :=
    (optimalTradeSize_sized hp hopt hpos).mono (by omega) (by omega)
  rw [hx] at hq hprofit ⊢
  obtain ⟨source', hs⟩ := buy_executes hsized hq
  obtain ⟨target', ht⟩ := sell_executes hsized hq hq'
  obtain ⟨hsA, hsB, htB, htA⟩ := reserves_of_trades hq hq' hs ht
  exact
    { source_eq := rfl
      target_eq := rfl
      optimal := hopt
      execute_pos := by simp only; omega
      execute_le := by simp only; omega
      first_quote := hq
      second_quote := hq'
      profit_eq := rfl
      profit_gt := hprofit
      settles := by
        refine ⟨source', target', hs, ht, by omega, ?_, Pool.trade_product_le hs,
          Pool.trade_product_le ht⟩
        simp only [Plan.profit]
        omega }

/-! ## A round trip in ether -/

/-- A pool that sells ether at three thousand for one, in the smallest units of both assets. -/
def etherSeller : Pool :=
  { venue := "astroport"
    plane := "COSMOS"
    reserveA := 3000000000000
    reserveB := 1000000000000000000000
    feeRate := AstroportConfig.bare.feeRate.val
    convention := .postFee
    denomA := .str "usdt"
    denomB := .str "eth"
    granularity := unitFactor.val
    reserveA_le := by decide
    reserveB_le := by decide
    feeRate_le := AstroportConfig.bare.feeRate.property
    granularity_pos := unitFactor.property }

/-- A pool that buys ether at three thousand two hundred for one, in steps of its granularity. -/
def etherBuyer : Pool :=
  { venue := "raydium"
    plane := "SVM"
    reserveA := 3200000000000
    reserveB := 1000000000000000000000
    feeRate := RaydiumConfig.bare.feeRate.val
    convention := .preFee
    denomA := .str tetherMint
    denomB := .str etherMint
    granularity := etherFactor.val
    reserveA_le := by decide
    reserveB_le := by decide
    feeRate_le := RaydiumConfig.bare.feeRate.property
    granularity_pos := etherFactor.property }

/-- A plan between both pools, cut to a balance of twenty thousand. -/
def etherPlan : Plan :=
  ⟨etherSeller, etherBuyer, 48701405097, 20000000000, 6556291390728476821, 20822768697⟩

theorem default_inRange : Policy.default.InRange := ⟨by decide, by decide, by decide⟩

theorem solve_ether :
    solve .default etherSeller etherBuyer 20000000000 0 = .ok (.plan etherPlan) := by
  refine solve_eq_plan_iff.2 ⟨48701405097, by decide +kernel, ⟨by decide, by decide +kernel⟩,
    ⟨15814730483419044818, 49770214973, by decide +kernel, by decide⟩, by decide, ?_⟩
  exact ⟨6556291390728476821, 20822768697, by decide +kernel, by decide, rfl⟩

theorem ether_plan_sound :
    Policy.default.InRange ∧
      solve .default etherSeller etherBuyer 20000000000 0 = .ok (.plan etherPlan) ∧
      etherPlan.Sound .default etherSeller etherBuyer 20000000000 0 :=
  ⟨default_inRange, solve_ether, solve_plan_sound default_inRange solve_ether⟩

end CrossVenue
