import CrossVenue.Market
import CrossVenue.Proofs.Arbitrage.Plan
import CrossVenue.Proofs.Pool.Run
import CrossVenue.Steps
import Mathlib.Algebra.Order.BigOperators.Group.List

/-!
# Markets that execute arbitrage

A market serves requests to execute round trips between its pools, one after another, in any directions
and also from a pool to itself.  One relation says what was done to it so far, `Moved`: how much of each
asset came in, and that every pool kept its terms and the product of its reserves.  An executed plan
brings in nothing of asset B and takes its profit out of asset A.  Profits are whole and positive, so
asset A also bounds how many plans there can be.

* `Table.total_set` : replacing a value changes a total by the difference;
* `solve_executes` : the trades of a plan succeed, between pools of different prices;
* `execute_moved`, `run_moved` : what one request does, and any number of them;
* `market_conserves` : what any number of requests leaves of a market.
-/

set_option autoImplicit false

namespace CrossVenue

/-! ## Totals of tables -/

namespace Table

variable {α : Type} {t : Table α} {name : Text} {v w : α}

/-- What the values of a table come to. -/
def total (f : α → Nat) (t : Table α) : Nat := t.values.foldr (fun v n => f v + n) 0

/-- **Replacing a value changes a total by the difference.** -/
theorem total_set (f : α → Nat) (h : t.lookup name = some w) :
    total f (t.set name v) + f w = total f t + f v := by
  induction t with
  | nil => cases h
  | cons e rest ih =>
    obtain ⟨k, u⟩ := e
    simp only [set]
    split
    · rename_i hk
      subst hk
      rw [List.lookup_cons_self, Option.some.injEq] at h
      subst h
      simp only [total, values, List.map_cons, List.foldr_cons]
      omega
    · rename_i hk
      rw [List.lookup_cons, beq_eq_false_iff_ne.2 (Ne.symm hk)] at h
      have ih' := ih h
      simp only [total, values, List.map_cons, List.foldr_cons] at ih' ⊢
      omega

end Table

/-! ## Plans between two pools -/

/-- **The trades of a plan succeed**, and lead between pools of different prices. -/
theorem solve_executes {policy : Policy} (hp : policy.InRange) {source target : Pool}
    {balance minProfit : Int} {plan : Plan}
    (h : solve policy source target balance minProfit = .ok (.plan plan)) :
    source.reserveA * target.reserveB < target.reserveA * source.reserveB ∧
      minProfit < plan.profit ∧ plan.source = source ∧ plan.target = target ∧
      ∃ source' target', source.trade plan.executeAmount .aToB = .ok source' ∧
        target.trade plan.firstOutput .bToA = .ok target' ∧
        (source'.reserveB + target'.reserveB : Int) = source.reserveB + target.reserveB ∧
        (source'.reserveA + target'.reserveA : Int) =
          source.reserveA + target.reserveA - plan.profit := by
  obtain ⟨optimal, hopt, ⟨hpos, -⟩, -, hmin, first, second, hr, hprofit, rfl⟩ := solve_eq_plan_iff.1 h
  obtain ⟨hq, hq'⟩ := roundTrip_eq_ok_iff.1 hr
  obtain ⟨x, hx⟩ : ∃ x : Nat, min optimal balance = x := ⟨(min optimal balance).toNat, by omega⟩
  have hsized : Sized source target x :=
    (optimalTradeSize_sized hp hopt hpos).mono (by omega) (by omega)
  rw [hx] at hq hprofit ⊢
  obtain ⟨source', hs⟩ := buy_executes hsized hq
  obtain ⟨target', ht⟩ := sell_executes hsized hq hq'
  obtain ⟨hsA, hsB, htB, htA⟩ := reserves_of_trades hq hq' hs ht
  refine ⟨hsized.price_lt, hprofit, rfl, rfl, source', target', hs, ht, by omega, ?_⟩
  simp only [Plan.profit]
  omega

namespace Market

variable {m after later : Market} {policy : Policy} {source target name : Text}
  {balance minProfit : Int} {outcome : Outcome} {plan : Plan} {p q : Pool}

/-! ## Requests -/

/-- What is asked of a market: a round trip from one named pool to another. -/
structure Request where
  source : Text
  target : Text
  balance : Int
  minProfit : Int

/-- The answer to a request, and the market after it. -/
def serve (policy : Policy) (m : Market) (r : Request) : Attempt (Outcome × Market) :=
  m.execute policy r.source r.target r.balance r.minProfit

/-- The plan that was executed, if there was one. -/
def executed? : Attempt Outcome → Option Plan
  | .ok (.plan plan) => some plan
  | _ => none

/-- The plans that were executed, in order. -/
def plans (answers : List (Attempt Outcome)) : List Plan := answers.filterMap executed?

/-- What plans gain together. -/
def profits (plans : List Plan) : Int := (plans.map Plan.profit).sum

theorem plans_cons (answer : Attempt Outcome) (answers : List (Attempt Outcome)) :
    plans (answer :: answers) = (executed? answer).toList ++ plans answers := by
  cases h : executed? answer with
  | none => simp [plans, h]
  | some plan => simp [plans, h]

theorem profits_append (xs ys : List Plan) : profits (xs ++ ys) = profits xs + profits ys := by
  simp [profits]

theorem pool_eq_ok_iff : m.pool name = .ok p ↔ m.pools.lookup name = some p := by
  unfold pool breakDown
  split
  · rename_i found hfound
    rw [hfound, Except.ok.injEq, Option.some.injEq]
  · rename_i hnone
    rw [hnone]
    exact ⟨nofun, nofun⟩

theorem solve_eq_ok_iff :
    m.solve policy source target balance minProfit = .ok outcome ↔
      ∃ p q, m.pools.lookup source = some p ∧ m.pools.lookup target = some q ∧
        CrossVenue.solve policy p q balance minProfit = .ok outcome := by
  simp only [solve, bind_eq_ok_iff, pool_eq_ok_iff]
  constructor
  · rintro ⟨p, hp, q, hq, h⟩
    exact ⟨p, q, hp, hq, h⟩
  · rintro ⟨p, q, hp, hq, h⟩
    exact ⟨p, hp, q, hq, h⟩

theorem execute_eq_ok_iff :
    m.execute policy source target balance minProfit = .ok (outcome, after) ↔
      m.solve policy source target balance minProfit = .ok outcome ∧
        m.apply source target outcome = .ok after := by
  simp only [execute, bind_eq_ok_iff, lift_eq_ok_iff, Except.ok.injEq, Prod.mk.injEq]
  constructor
  · rintro ⟨_, hs, _, ha, rfl, rfl⟩
    exact ⟨hs, ha⟩
  · rintro ⟨hs, ha⟩
    exact ⟨_, hs, _, ha, rfl, rfl⟩

theorem apply_plan_eq_ok_iff :
    m.apply source target (.plan plan) = .ok after ↔
      ∃ p q, plan.source.trade plan.executeAmount .aToB = .ok p ∧
        plan.target.trade plan.firstOutput .bToA = .ok q ∧
        after = (m.replace source p).replace target q := by
  simp only [apply, settle, bind_eq_ok_iff, Except.ok.injEq, Prod.exists, Prod.mk.injEq]
  constructor
  · rintro ⟨_, _, ⟨p, hp, q, hq, rfl, rfl⟩, rfl⟩
    exact ⟨p, q, hp, hq, rfl⟩
  · rintro ⟨p, q, hp, hq, rfl⟩
    exact ⟨p, q, ⟨p, hp, q, hq, rfl, rfl⟩, rfl⟩

/-! ## What replacing pools does -/

/-- What was done to a market into which so much of each asset came. -/
structure Moved (m after : Market) (inA inB : Int) : Prop where
  names_eq : after.pools.names = m.pools.names
  totalA_eq : (after.totalA : Int) = m.totalA + inA
  totalB_eq : (after.totalB : Int) = m.totalB + inB
  keeps : ∀ name p, m.pools.lookup name = some p →
    ∃ q, after.pools.lookup name = some q ∧ p.Keeps q

theorem Moved.refl (m : Market) : m.Moved m 0 0 where
  names_eq := rfl
  totalA_eq := by omega
  totalB_eq := by omega
  keeps := fun _ p h => ⟨p, h, .refl p⟩

theorem Moved.trans {inA inB inA' inB' : Int} (h : m.Moved after inA inB)
    (h' : after.Moved later inA' inB') : m.Moved later (inA + inA') (inB + inB') where
  names_eq := h'.names_eq.trans h.names_eq
  totalA_eq := by rw [h'.totalA_eq, h.totalA_eq, Int.add_assoc]
  totalB_eq := by rw [h'.totalB_eq, h.totalB_eq, Int.add_assoc]
  keeps := by
    intro name p hp
    obtain ⟨q, hq, hpq⟩ := h.keeps name p hp
    obtain ⟨r, hr, hqr⟩ := h'.keeps name q hq
    exact ⟨r, hr, hpq.trans hqr⟩

theorem moved_replace (h : m.pools.lookup name = some p) (hk : p.Keeps q) :
    m.Moved (m.replace name q) (q.reserveA - p.reserveA) (q.reserveB - p.reserveB) where
  names_eq := Table.set_names (Table.name_of_lookup h)
  totalA_eq := by
    have ht : (m.replace name q).totalA + p.reserveA = m.totalA + q.reserveA :=
      Table.total_set Pool.reserveA h
    omega
  totalB_eq := by
    have ht : (m.replace name q).totalB + p.reserveB = m.totalB + q.reserveB :=
      Table.total_set Pool.reserveB h
    omega
  keeps := by
    intro other r hr
    by_cases hn : other = name
    · subst hn
      rw [h, Option.some.injEq] at hr
      subst hr
      exact ⟨q, by simp [replace, Table.set_lookup], hk⟩
    · exact ⟨r, by simp [replace, Table.set_lookup, hn, hr], .refl r⟩

/-! ## What a request does -/

/-- **A plan that is found is executed**: both pools are replaced by what its trades make of them. -/
theorem serve_of_plan (hp : policy.InRange) {r : Request} (hs : m.pools.lookup r.source = some p)
    (ht : m.pools.lookup r.target = some q)
    (h : CrossVenue.solve policy p q r.balance r.minProfit = .ok (.plan plan)) :
    ∃ p' q', p.trade plan.executeAmount .aToB = .ok p' ∧ q.trade plan.firstOutput .bToA = .ok q' ∧
      serve policy m r = .ok (.plan plan, (m.replace r.source p').replace r.target q') := by
  obtain ⟨-, -, rfl, rfl, p', q', hbuy, hsell, -⟩ := solve_executes hp h
  refine ⟨p', q', hbuy, hsell, execute_eq_ok_iff.2 ⟨?_, ?_⟩⟩
  · exact solve_eq_ok_iff.2 ⟨_, _, hs, ht, h⟩
  · exact apply_plan_eq_ok_iff.2 ⟨p', q', hbuy, hsell, rfl⟩

/-- A request without a plan changes nothing. -/
theorem settleStep_serve_of_no_plan {r : Request}
    (h : ∀ p q plan, m.pools.lookup r.source = some p → m.pools.lookup r.target = some q →
      CrossVenue.solve policy p q r.balance r.minProfit ≠ .ok (.plan plan)) :
    (settleStep (serve policy) m r).2 = m := by
  unfold settleStep
  split
  · rename_i answer after hserve
    obtain ⟨hs, ha⟩ := execute_eq_ok_iff.1 hserve
    cases answer with
    | noTrade answer =>
      cases ha
      rfl
    | plan plan =>
      obtain ⟨p, q, hlp, hlq, hsolve⟩ := solve_eq_ok_iff.1 hs
      exact absurd hsolve (h p q plan hlp hlq)
  · rfl

/-- **One request moves its profit out of asset A, and nothing of asset B.**  A plan leads between pools of
different prices, so it never has one pool on both sides. -/
theorem execute_moved (hp : policy.InRange)
    (h : m.execute policy source target balance minProfit = .ok (outcome, after)) :
    m.Moved after (-profits (executed? (.ok outcome)).toList) 0 := by
  obtain ⟨hs, ha⟩ := execute_eq_ok_iff.1 h
  cases outcome with
  | noTrade answer =>
    cases ha
    exact .refl m
  | plan plan =>
    obtain ⟨p, q, hlp, hlq, hsolve⟩ := solve_eq_ok_iff.1 hs
    obtain ⟨hprice, -, rfl, rfl, p', q', hbuy, hsell, hB, hA⟩ := solve_executes hp hsolve
    obtain ⟨_, _, hbuy', hsell', rfl⟩ := apply_plan_eq_ok_iff.1 ha
    rw [hbuy, Except.ok.injEq] at hbuy'
    rw [hsell, Except.ok.injEq] at hsell'
    subst hbuy' hsell'
    have hne : target ≠ source := by
      rintro rfl
      rw [hlp, Option.some.injEq] at hlq
      rw [hlq] at hprice
      exact Nat.lt_irrefl _ hprice
    have hlq' : (m.replace source p').pools.lookup target = some plan.target := by
      rw [replace, Table.set_lookup, if_neg hne, hlq]
    have hmoved := (moved_replace hlp (Pool.trade_keeps hbuy)).trans
      (moved_replace hlq' (Pool.trade_keeps hsell))
    have hgain : profits (executed? (.ok (.plan plan))).toList = plan.profit := by
      simp [profits, executed?]
    have inA : (p'.reserveA - plan.source.reserveA + (q'.reserveA - plan.target.reserveA) : Int) =
        -profits (executed? (.ok (.plan plan))).toList := by omega
    have inB : (p'.reserveB - plan.source.reserveB + (q'.reserveB - plan.target.reserveB) : Int) = 0 := by
      omega
    rwa [inA, inB] at hmoved

/-- Whoever asks for no loss gains something by every plan. -/
theorem executed_profit_pos (hp : policy.InRange) {r : Request} (hr : 0 ≤ r.minProfit)
    (h : serve policy m r = .ok (outcome, after)) :
    ∀ plan ∈ (executed? (.ok outcome)).toList, 0 < plan.profit := by
  intro plan hplan
  cases outcome with
  | noTrade answer => cases hplan
  | plan found =>
    rw [executed?, Option.toList_some, List.mem_singleton] at hplan
    subst hplan
    obtain ⟨_, _, -, -, hs⟩ := solve_eq_ok_iff.1 (execute_eq_ok_iff.1 h).1
    have hprofit : r.minProfit < plan.profit := (solve_executes hp hs).2.1
    omega

/-! ## What any number of requests does -/

/-- **Any number of requests move their profits out of asset A, and nothing of asset B.** -/
theorem run_moved (hp : policy.InRange) (m : Market) (requests : List Request) :
    m.Moved (runSteps (serve policy) m requests).2
      (-profits (plans (runSteps (serve policy) m requests).1)) 0 := by
  induction requests generalizing m with
  | nil => exact .refl m
  | cons r rest ih =>
    have hlater := ih (settleStep (serve policy) m r).2
    simp only [runSteps, plans_cons, profits_append, Int.neg_add]
    cases hserve : serve policy m r with
    | ok result =>
      obtain ⟨outcome, after⟩ := result
      rw [settleStep_of_ok hserve] at hlater ⊢
      exact (execute_moved hp hserve).trans hlater
    | error e =>
      rw [settleStep_of_error hserve] at hlater ⊢
      exact (Moved.refl m).trans hlater

theorem run_profit_pos (hp : policy.InRange) (m : Market) {requests : List Request}
    (hr : ∀ r ∈ requests, 0 ≤ r.minProfit) :
    ∀ plan ∈ plans (runSteps (serve policy) m requests).1, 0 < plan.profit := by
  induction requests generalizing m with
  | nil => exact fun plan h => by cases h
  | cons r rest ih =>
    rw [List.forall_mem_cons] at hr
    intro plan hplan
    simp only [runSteps, plans_cons, List.mem_append] at hplan
    rcases hplan with hplan | hplan
    · cases hserve : serve policy m r with
      | ok result =>
        obtain ⟨outcome, after⟩ := result
        rw [settleStep_of_ok hserve] at hplan
        exact executed_profit_pos hp hr.1 hserve plan hplan
      | error e =>
        rw [settleStep_of_error hserve] at hplan
        cases hplan
    · exact ih _ hr.2 plan hplan

/-- **What any number of requests leaves of a market.**  All of asset B is still there, asset A is less by
the profits that were answered, and every pool keeps its name, its terms, its product and something of
both assets.  Asset A bounds the number of plans, as long as nobody asks for a loss.  In the market that is
reached, a request is executed when a plan is found, and changes nothing otherwise. -/
theorem market_conserves {policy : Policy} (hp : policy.InRange) (m : Market)
    (hm : ∀ name p, m.pools.lookup name = some p → 0 < p.reserveA ∧ 0 < p.reserveB)
    (requests : List Request) :
    let answers := (runSteps (serve policy) m requests).1
    let after := (runSteps (serve policy) m requests).2
    after.totalB = m.totalB ∧
    (after.totalA : Int) = m.totalA - profits (plans answers) ∧
    after.pools.names = m.pools.names ∧
    (∀ name p, m.pools.lookup name = some p → ∃ q, after.pools.lookup name = some q ∧
      q.terms = p.terms ∧ p.reserveA * p.reserveB ≤ q.reserveA * q.reserveB ∧
      0 < q.reserveA ∧ 0 < q.reserveB) ∧
    ((∀ r ∈ requests, 0 ≤ r.minProfit) → (plans answers).length ≤ m.totalA) ∧
    ∀ r : Request,
      (∀ p q plan, after.pools.lookup r.source = some p → after.pools.lookup r.target = some q →
        CrossVenue.solve policy p q r.balance r.minProfit = .ok (.plan plan) →
        ∃ p' q', p.trade plan.executeAmount .aToB = .ok p' ∧
          q.trade plan.firstOutput .bToA = .ok q' ∧
          serve policy after r =
            .ok (.plan plan, (after.replace r.source p').replace r.target q')) ∧
      ((∀ p q plan, after.pools.lookup r.source = some p → after.pools.lookup r.target = some q →
          CrossVenue.solve policy p q r.balance r.minProfit ≠ .ok (.plan plan)) →
        (settleStep (serve policy) after r).2 = after) := by
  intro answers after
  have hmoved : m.Moved after (-profits (plans answers)) 0 := run_moved hp m requests
  have hA := hmoved.totalA_eq
  have hB := hmoved.totalB_eq
  refine ⟨by omega, by omega, hmoved.names_eq, ?_, ?_, ?_⟩
  · intro name p hlookup
    obtain ⟨q, hq, hkeeps⟩ := hmoved.keeps name p hlookup
    obtain ⟨ha, hb⟩ := hm name p hlookup
    exact ⟨q, hq, hkeeps.terms_eq, hkeeps.product_le, hkeeps.reserves_pos ha hb⟩
  · intro hr
    have hpos := run_profit_pos hp m hr
    have hle : ((plans answers).map Plan.profit).length • (1 : Int) ≤ profits (plans answers) := by
      refine List.card_nsmul_le_sum _ _ fun gain hgain => ?_
      obtain ⟨plan, hplan, rfl⟩ := List.mem_map.1 hgain
      exact hpos plan hplan
    rw [List.length_map, nsmul_one] at hle
    omega
  · intro r
    exact ⟨fun p q plan hs ht h => serve_of_plan hp hs ht h, settleStep_serve_of_no_plan⟩

/-- The market of a seller and a buyer of ether. -/
def ether : Market := ⟨[("seller", etherSeller), ("buyer", etherBuyer)]⟩

/-- A round trip that is worth it, one from a pool to itself, and one to a pool that is not there. -/
def etherRequests : List Request :=
  [⟨"seller", "buyer", 20000000000, 0⟩, ⟨"buyer", "buyer", 20000000000, 0⟩, ⟨"buyer", "other", 1, 0⟩]

theorem ether_conserved :
    let answers := (runSteps (serve .default) ether etherRequests).1
    let after := (runSteps (serve .default) ether etherRequests).2
    (Policy.default.InRange ∧
      (∀ name p, ether.pools.lookup name = some p → 0 < p.reserveA ∧ 0 < p.reserveB) ∧
      ∀ r ∈ etherRequests, 0 ≤ r.minProfit) ∧
    (ether.totalA, after.totalA, (plans answers).length) = (6200000000000, 6199177231303, 1) ∧
    after.totalB = ether.totalB ∧
    (after.totalA : Int) = ether.totalA - profits (plans answers) ∧
    (plans answers).length ≤ ether.totalA := by
  have hm : ∀ name p, ether.pools.lookup name = some p → 0 < p.reserveA ∧ 0 < p.reserveB := by
    intro name p h
    obtain ⟨before, after, heq, -⟩ := List.lookup_eq_some_iff.1 h
    have hmem : (name, p) ∈ ether.pools := by rw [heq]; simp
    simp only [ether, List.mem_cons, Prod.mk.injEq, List.not_mem_nil, or_false] at hmem
    rcases hmem with ⟨-, rfl⟩ | ⟨-, rfl⟩ <;> decide
  have hr : ∀ r ∈ etherRequests, 0 ≤ r.minProfit := by decide
  obtain ⟨hB, hA, -, -, hcount, -⟩ := market_conserves default_inRange ether hm etherRequests
  exact ⟨⟨default_inRange, hm, hr⟩, by decide +kernel, hB, hA, hcount hr⟩

end Market

end CrossVenue
