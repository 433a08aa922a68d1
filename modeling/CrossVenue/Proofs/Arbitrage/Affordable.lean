import CrossVenue.Proofs.Arbitrage.Plan
import CrossVenue.Proofs.Pool.Monotone

/-!
# What a balance affords

The solver quotes a round trip twice: at the best size, and at what the balance affords of it.  Quotes are
monotone, so the second quoting never fails where the first one did not.  Both have to be worth it, so a
round trip that gains at what the balance affords is refused where the best size, which is blind to fees,
loses.

* `roundTrip_of_le` : below a size whose round trip is quoted, all are, and give no more;
* `solve_eq_error_iff` : the solver fails only before it looks at the balance;
* `quotes_monotone` : quotes are monotone, and success is downward closed;
* `planned_iff_worthwhile` : a round trip is planned exactly if it is worth it at both sizes.
-/

set_option autoImplicit false

namespace CrossVenue

variable {policy : Policy} {source target : Pool}

/-! ## The second quoting -/

/-- **Below a size whose round trip is quoted, all round trips are**, and none gives more. -/
theorem roundTrip_of_le (hs : 0 < source.reserveA) (ht : 0 < target.reserveB) {x e : Int}
    {first second : Nat} (h : roundTrip source target x = .ok (first, second)) (h0 : 0 ≤ e)
    (he : e ≤ x) :
    ∃ first' second', roundTrip source target e = .ok (first', second') ∧ first' ≤ first ∧
      second' ≤ second := by
  obtain ⟨hfirst, hsecond⟩ := roundTrip_eq_ok_iff.1 h
  obtain ⟨first', hfirst'⟩ := (Pool.exists_quote_iff_of_le hfirst h0 he).2 (.inl hs)
  have hle : first' ≤ first := (Pool.NoBetter.refl source _).quote_le he hfirst' hfirst
  have hle' : (first' : Int) ≤ first := by exact_mod_cast hle
  obtain ⟨second', hsecond'⟩ :=
    (Pool.exists_quote_iff_of_le hsecond (Int.natCast_nonneg first') hle').2 (.inl ht)
  exact ⟨first', second', roundTrip_eq_ok_iff.2 ⟨hfirst', hsecond'⟩, hle,
    (Pool.NoBetter.refl target _).quote_le hle' hsecond' hsecond⟩

/-- What the balance affords of the best size is quoted, once the best size is. -/
theorem roundTrip_affordable {optimal : Int} {first second : Nat}
    (hopt : optimalTradeSize policy source target = .ok optimal)
    (hr : roundTrip source target optimal = .ok (first, second)) (balance : Int)
    (h0 : 0 < min optimal balance) :
    ∃ first' second', roundTrip source target (min optimal balance) = .ok (first', second') ∧
      first' ≤ first ∧ second' ≤ second := by
  obtain ⟨⟨hs, -⟩, ⟨-, ht⟩, -⟩ := optimalTradeSize_eq_ok hopt
  exact roundTrip_of_le hs ht hr h0.le (Int.min_le_left _ _)

/-! ## Where the solver fails -/

/-- What a gain does not exceed can be written unless it is too long above zero. -/
theorem isWritable_iff_of_gain_le {gain least : Int} (hgain : Number.isWritable gain = true)
    (hle : gain ≤ least) : Number.isWritable least = true ↔ least < Number.tooLong := by
  rw [Number.isWritable_iff] at hgain ⊢
  omega

theorem holdFor_eq_ok {reason : NoTradeReason} (h : reason.sentence.isWritable = true)
    (optimal projected : Int) :
    holdFor reason optimal projected = .ok (.noTrade ⟨reason, optimal, projected⟩) :=
  holdFor_eq_ok_iff.2 ⟨h, rfl⟩

/-- Nothing that follows the first quoting fails, unless the least profit is too long. -/
theorem sizeForBalance_eq_ok {optimal : Int} {first second : Nat}
    (hopt : optimalTradeSize policy source target = .ok optimal)
    (hr : roundTrip source target optimal = .ok (first, second))
    (hwritten : Number.isWritable optimal = true) (projected balance : Int) {minProfit : Int}
    (hleast : minProfit < Number.tooLong) :
    ∃ outcome, sizeForBalance source target optimal projected balance minProfit = .ok outcome := by
  simp only [sizeForBalance]
  split
  · exact ⟨_, holdFor_eq_ok rfl _ _⟩
  · rename_i hpos
    obtain ⟨first', second', hr', -⟩ := roundTrip_affordable hopt hr balance (by omega)
    obtain ⟨h0, -, hsecond⟩ := roundTrip_words hr'
    have hpart := isWritable_of_le h0 (Int.min_le_left _ _) hwritten
    have hgain := isWritable_gain h0 hsecond hpart
    rw [lift_bind_of_ok hr']
    simp only
    split
    · rename_i hle
      refine ⟨_, holdFor_eq_ok ?_ _ _⟩
      simp [NoTradeReason.sentence, hgain, (isWritable_iff_of_gain_le hgain hle).2 hleast]
    · rw [requireWritable_bind, executedLine_isWritable hr', if_pos hpart]
      exact ⟨_, rfl⟩

/-- Is a best size quoted, as far as it is positive, and something of it cannot be written: the size
itself, or the least profit, which is too long for any gain to exceed it? -/
def Unwritten (source target : Pool) (optimal minProfit : Int) : Prop :=
  (0 < optimal → ∃ outputs, roundTrip source target optimal = .ok outputs) ∧
    (Number.isWritable optimal = false ∨ 0 < optimal ∧ (Number.tooLong : Int) ≤ minProfit)

/-- What follows the first quoting, and where it fails. -/
theorem quoted_eq_error_iff {optimal : Int} {first second : Nat}
    (hopt : optimalTradeSize policy source target = .ok optimal)
    (hr : roundTrip source target optimal = .ok (first, second)) {balance minProfit : Int}
    {failure : Failure} :
    (do
      requireWritable
        (estimateLine [source.venue] [target.venue] optimal first (second - optimal : Int))
      if second - optimal ≤ minProfit then
        holdFor (.projectedTooLow (second - optimal : Int) minProfit) optimal (second - optimal)
      else sizeForBalance source target optimal (second - optimal) balance minProfit) =
        .error failure ↔
      (Number.isWritable optimal = false ∨ (Number.tooLong : Int) ≤ minProfit) ∧
        failure = .broken .badText := by
  obtain ⟨h0, -, hsecond⟩ := roundTrip_words hr
  have hbadText : (breakDown .badText : Attempt Outcome) = .error failure ↔
      failure = .broken .badText := by
    rw [breakDown, Except.error.injEq, eq_comm]
  rw [requireWritable_bind, estimateLine_isWritable hr]
  cases hwritten : Number.isWritable optimal with
  | false =>
    rw [if_neg Bool.false_ne_true, hbadText]
    exact (and_iff_right (.inl rfl)).symm
  | true =>
    have hgain := isWritable_gain h0 hsecond hwritten
    have hshort := Number.isWritable_iff.1 hgain
    simp only [if_true, Bool.true_eq_false, false_or]
    by_cases hle : (second - optimal : Int) ≤ minProfit
    · have hsentence : (NoTradeReason.projectedTooLow (second - optimal : Int)
          minProfit).sentence.isWritable = Number.isWritable minProfit := by
        simp [NoTradeReason.sentence, hgain]
      rw [if_pos hle, holdFor, requireWritable_bind, hsentence]
      by_cases hleast : minProfit < Number.tooLong
      · rw [if_pos ((isWritable_iff_of_gain_le hgain hle).2 hleast)]
        exact iff_of_false (by simp) (fun h => by omega)
      · rw [if_neg (mt (isWritable_iff_of_gain_le hgain hle).1 hleast), hbadText,
          and_iff_right (by omega)]
    · rw [if_neg hle]
      have hleast : minProfit < Number.tooLong := by omega
      obtain ⟨outcome, hok⟩ :=
        sizeForBalance_eq_ok hopt hr hwritten (second - optimal) balance hleast
      rw [hok]
      exact iff_of_false (by simp) (fun h => by omega)

/-- **The solver fails only before it looks at the balance**: in sizing, in quoting the best size, or in
writing down that size or the least profit. -/
theorem solve_eq_error_iff {balance minProfit : Int} {failure : Failure} :
    solve policy source target balance minProfit = .error failure ↔
      optimalTradeSize policy source target = .error failure ∨
        ∃ optimal, optimalTradeSize policy source target = .ok optimal ∧
          ((0 < optimal ∧
              ∃ r, roundTrip source target optimal = .error r ∧ failure = r.failure) ∨
            Unwritten source target optimal minProfit ∧ failure = .broken .badText) := by
  rw [solve, bind_eq_error_iff]
  refine or_congr_right (exists_congr fun optimal => and_congr_right fun hopt => ?_)
  by_cases hpos : 0 < optimal
  · rw [if_neg (not_le.2 hpos), Unwritten, and_iff_right hpos, forall_prop_of_true hpos,
      and_iff_right hpos]
    cases hr : roundTrip source target optimal with
    | error r =>
      rw [bind_eq_error_iff, lift_eq_error_iff]
      simp only [lift_eq_ok_iff, reduceCtorEq, false_and, exists_false, or_false]
    | ok outputs =>
      rw [lift_bind_of_ok rfl]
      have hquoted : ∃ r, (.ok outputs : Except Rejection (Nat × Nat)) = .ok r := ⟨_, rfl⟩
      refine (quoted_eq_error_iff hopt hr).trans ?_
      simp only [reduceCtorEq, false_and, exists_false, false_or, and_iff_right hquoted]
  · rw [if_pos (not_lt.1 hpos), requireWritable_bind]
    have hline : (unprofitableLine [source.venue] [target.venue] optimal).isWritable =
        Number.isWritable optimal := by
      simp [unprofitableLine]
    rw [hline, Unwritten]
    -- nothing depends on how long that is, and `simp` would try to compute it
    generalize (Number.tooLong : Int) = bound
    cases Number.isWritable optimal <;>
      simp [hpos, breakDown, holdFor_eq_ok, NoTradeReason.sentence, eq_comm]

/-- **Quotes are monotone, and success is downward closed.**  A pool that is no better gives no more for
no more; no pool gives all that it has; below a size that is quoted all sizes are, as long as something is
in the pool or meets its curve.  So what a balance affords of a round trip is quoted once the best size is,
and the solver fails only where sizing or that first quoting does, or where the best size or the least
profit is too long to be written. -/
theorem quotes_monotone :
    (∀ (p q : Pool) (d : Direction) (x x' : Int) (y y' : Nat), p.NoBetter q d → x ≤ x' →
      p.quote x d = .ok y → q.quote x' d = .ok y' → y ≤ y') ∧
    (∀ (p : Pool) (d : Direction) (x : Int) (y : Nat), 0 < p.reserveIn d → 0 < p.reserveOut d →
      p.quote x d = .ok y → y < p.reserveOut d) ∧
    (∀ (p : Pool) (d : Direction) (x x' : Int) (y' : Nat), p.quote x' d = .ok y' → 0 ≤ x → x ≤ x' →
      ((∃ y, p.quote x d = .ok y) ↔ 0 < p.reserveIn d ∨ 0 < p.effectiveInput d x.toNat)) ∧
    ∀ (policy : Policy) (source target : Pool) (balance minProfit : Int),
      (∀ (optimal : Int) (first second : Nat), optimalTradeSize policy source target = .ok optimal →
        roundTrip source target optimal = .ok (first, second) → 0 < min optimal balance →
        ∃ first' second', roundTrip source target (min optimal balance) = .ok (first', second') ∧
          first' ≤ first ∧ second' ≤ second) ∧
      ∀ failure, solve policy source target balance minProfit = .error failure ↔
        optimalTradeSize policy source target = .error failure ∨
          ∃ optimal, optimalTradeSize policy source target = .ok optimal ∧
            ((0 < optimal ∧
                ∃ r, roundTrip source target optimal = .error r ∧ failure = r.failure) ∨
              Unwritten source target optimal minProfit ∧ failure = .broken .badText) := by
  refine ⟨fun p q d x x' y y' h hx hy hy' => h.quote_le hx hy hy', fun p d x y hin hout hy => ?_,
    fun p d x x' y' h h0 hx => Pool.exists_quote_iff_of_le h h0 hx,
    fun policy source target balance minProfit => ⟨fun optimal first second hopt hr h0 => ?_,
      fun failure => solve_eq_error_iff⟩⟩
  · obtain ⟨n, -, -, -, rfl⟩ := Pool.quote_eq_ok_iff.1 hy
    exact Pool.output_lt_reserveOut hin hout n
  · exact roundTrip_affordable hopt hr balance h0

/-- A seller of ether at a lower price and the lower fee of the buyer. -/
def etherDiscounter : Pool :=
  { etherSeller with
    reserveA := 2900000000000
    feeRate := etherBuyer.feeRate
    reserveA_le := by decide
    feeRate_le := etherBuyer.feeRate_le }

theorem ether_monotone :
    (etherSeller.NoBetter etherDiscounter .aToB ∧ (1000000000 : Int) ≤ 2000000000 ∧
      etherSeller.quote 1000000000 .aToB = .ok 329890036654448517 ∧
      etherDiscounter.quote 2000000000 .aToB = .ok 688490696071674707 ∧
      329890036654448517 ≤ 688490696071674707) ∧
    ((0 < etherSeller.reserveIn .aToB ∧ 0 < etherSeller.reserveOut .aToB) ∧
      329890036654448517 < etherSeller.reserveOut .aToB) ∧
    ((∃ y, etherSeller.quote 0 .aToB = .ok y) ↔
      0 < etherSeller.reserveIn .aToB ∨ 0 < etherSeller.effectiveInput .aToB 0) ∧
    (optimalTradeSize .default etherSeller etherBuyer = .ok 48701405097 ∧
      roundTrip etherSeller etherBuyer 48701405097 = .ok (15814730483419044818, 49770214973) ∧
      ∃ first second, roundTrip etherSeller etherBuyer (min 48701405097 20000000000) =
        .ok (first, second) ∧ first ≤ 15814730483419044818 ∧ second ≤ 49770214973) :=
  have hno : etherSeller.NoBetter etherDiscounter .aToB := ⟨rfl, rfl, by decide, by decide, by decide⟩
  have hx : (1000000000 : Int) ≤ 2000000000 := by decide
  have hy : etherSeller.quote 1000000000 .aToB = .ok 329890036654448517 := by decide +kernel
  have hy' : etherDiscounter.quote 2000000000 .aToB = .ok 688490696071674707 := by decide +kernel
  have hin : 0 < etherSeller.reserveIn .aToB := by decide
  have hout : 0 < etherSeller.reserveOut .aToB := by decide
  have hopt : optimalTradeSize .default etherSeller etherBuyer = .ok 48701405097 := by
    decide +kernel
  have hr : roundTrip etherSeller etherBuyer 48701405097 =
      .ok (15814730483419044818, 49770214973) := by decide +kernel
  ⟨⟨hno, hx, hy, hy', quotes_monotone.1 _ _ _ _ _ _ _ hno hx hy hy'⟩,
    ⟨⟨hin, hout⟩, quotes_monotone.2.1 _ _ _ _ hin hout hy⟩,
    quotes_monotone.2.2.1 _ _ 0 _ _ hy (by decide) (by decide),
    hopt, hr, (quotes_monotone.2.2.2 _ _ _ 20000000000 0).1 _ _ _ hopt hr (by decide)⟩

/-! ## What is planned -/

/-- Does the round trip of a size return more than the size and the least profit together? -/
def Worthwhile (source target : Pool) (x least : Int) : Prop :=
  ∃ first second, roundTrip source target x = .ok (first, second) ∧ x + least < second

/-- A plan executes what the balance affords of the best size. -/
theorem executeAmount_eq {balance minProfit x : Int} {plan : Plan}
    (hx : optimalTradeSize policy source target = .ok x)
    (h : solve policy source target balance minProfit = .ok (.plan plan)) :
    plan.executeAmount = min x balance := by
  obtain ⟨optimal, hopt, -, -, -, first, second, -, -, rfl⟩ := solve_eq_plan_iff.1 h
  rw [hx, Except.ok.injEq] at hopt
  rw [hopt]

/-- The best size is refused where its round trip is not worth it, whatever the balance. -/
theorem solve_of_loss {x : Int} {first second : Nat}
    (hx : optimalTradeSize policy source target = .ok x)
    (hpos : 0 < x ∧ Number.isWritable x = true)
    (hr : roundTrip source target x = .ok (first, second)) (balance : Int) {minProfit : Int}
    (hleast : minProfit < Number.tooLong) (hloss : second - x ≤ minProfit) :
    solve policy source target balance minProfit =
      .ok (.noTrade ⟨.projectedTooLow (second - x : Int) minProfit, x, second - x⟩) := by
  obtain ⟨h0, -, hsecond⟩ := roundTrip_words hr
  have hgain := isWritable_gain h0 hsecond hpos.2
  have hleast := (isWritable_iff_of_gain_le hgain hloss).2 hleast
  rw [solve, bind_of_ok hx, if_neg (by omega), lift_bind_of_ok hr]
  simp only
  rw [requireWritable_bind, estimateLine_isWritable hr, if_pos hpos.2, if_pos hloss]
  exact holdFor_eq_ok (by simp [NoTradeReason.sentence, hgain, hleast]) _ _

/-- A size is written whenever there is an outcome. -/
theorem isWritable_of_solve {balance minProfit x : Int} {outcome : Outcome}
    (hx : optimalTradeSize policy source target = .ok x)
    (h : solve policy source target balance minProfit = .ok outcome) :
    Number.isWritable x = true := by
  rw [solve, bind_of_ok hx] at h
  split at h
  · obtain ⟨⟨⟩, hline, -⟩ := bind_eq_ok_iff.1 h
    rw [requireWritable_eq_ok_iff] at hline
    simpa [unprofitableLine] using hline
  · obtain ⟨⟨first, second⟩, hr, h⟩ := bind_eq_ok_iff.1 h
    obtain ⟨⟨⟩, hline, -⟩ := bind_eq_ok_iff.1 h
    rwa [requireWritable_eq_ok_iff, estimateLine_isWritable (lift_eq_ok_iff.1 hr)] at hline

/-- There is a plan if the round trip is worth it at the best size and at what is afforded of it. -/
theorem exists_plan_iff {balance minProfit x : Int}
    (hx : optimalTradeSize policy source target = .ok x) (hwritten : Number.isWritable x = true) :
    (∃ plan, solve policy source target balance minProfit = .ok (.plan plan)) ↔
      0 < x ∧ 0 < min x balance ∧ Worthwhile source target x minProfit ∧
        Worthwhile source target (min x balance) minProfit := by
  constructor
  · rintro ⟨plan, h⟩
    obtain ⟨optimal, hopt, ⟨hpos, -⟩, ⟨first, second, hr, hgain⟩, hmin, first', second', hr', hgain',
      -⟩ := solve_eq_plan_iff.1 h
    obtain rfl : x = optimal := by rwa [hx, Except.ok.injEq] at hopt
    exact ⟨hpos, hmin, ⟨first, second, hr, by omega⟩, first', second', hr', by omega⟩
  · rintro ⟨hpos, hmin, ⟨first, second, hr, hgain⟩, first', second', hr', hgain'⟩
    exact ⟨_, solve_eq_plan_iff.2 ⟨x, hx, ⟨hpos, hwritten⟩, ⟨first, second, hr, by omega⟩, hmin, first',
      second', hr', by omega, rfl⟩⟩

/-- **A round trip is planned exactly if it is worth it twice**: at the best size, and at what the balance
affords of it, which is what the plan executes.  Where the balance affords the best size, the second of
these decides alone. -/
theorem planned_iff_worthwhile {balance minProfit : Int} {outcome : Outcome}
    (h : solve policy source target balance minProfit = .ok outcome) :
    ∃ x, optimalTradeSize policy source target = .ok x ∧
      ((∃ plan, outcome = .plan plan ∧ plan.executeAmount = min x balance) ↔
        0 < x ∧ 0 < min x balance ∧ Worthwhile source target x minProfit ∧
          Worthwhile source target (min x balance) minProfit) ∧
      (∀ plan, outcome = .plan plan → plan.executeAmount = min x balance) ∧
      (x ≤ balance →
        ((∃ plan, outcome = .plan plan ∧ plan.executeAmount = min x balance) ↔
          0 < x ∧ 0 < min x balance ∧ Worthwhile source target (min x balance) minProfit)) := by
  obtain ⟨x, hx, -⟩ := bind_eq_ok_iff.1 h
  have hexecutes : ∀ plan, outcome = .plan plan → plan.executeAmount = min x balance := by
    rintro plan rfl
    exact executeAmount_eq hx h
  have hplanned : (∃ plan, outcome = .plan plan ∧ plan.executeAmount = min x balance) ↔
      0 < x ∧ 0 < min x balance ∧ Worthwhile source target x minProfit ∧
        Worthwhile source target (min x balance) minProfit := by
    rw [← exists_plan_iff hx (isWritable_of_solve hx h)]
    refine exists_congr fun plan => ?_
    rw [h, Except.ok.injEq]
    exact and_iff_left_of_imp (hexecutes plan)
  refine ⟨x, hx, hplanned, hexecutes, fun hle => hplanned.trans ?_⟩
  rw [Int.min_eq_left hle, and_self_iff]

theorem ether_worthwhile :
    solve .default etherSeller etherBuyer 20000000000 0 = .ok (.plan etherPlan) ∧
      ∃ x, optimalTradeSize .default etherSeller etherBuyer = .ok x ∧
        etherPlan.executeAmount = min x 20000000000 ∧ 0 < x ∧
        Worthwhile etherSeller etherBuyer x 0 ∧
        Worthwhile etherSeller etherBuyer (min x 20000000000) 0 := by
  obtain ⟨x, hx, hiff, hexecutes, -⟩ := planned_iff_worthwhile solve_ether
  obtain ⟨hpos, -, hbest, hafforded⟩ := hiff.1 ⟨etherPlan, rfl, hexecutes _ rfl⟩
  exact ⟨solve_ether, x, hx, hexecutes _ rfl, hpos, hbest, hafforded⟩

/-- A buyer of ether at three thousand and fifty for one: the prices differ by more than the fees, but not
by twice as much. -/
def etherNarrowBuyer : Pool :=
  { etherBuyer with
    reserveA := 3050000000000
    reserveA_le := by decide }

theorem optimalTradeSize_narrow :
    optimalTradeSize .default etherSeller etherNarrowBuyer = .ok 11825928913 := by decide +kernel

/-- **A gain that the balance affords is refused where the best size loses**: five thousand would gain more
than ten, and what is best without fees would lose more than twenty-seven. -/
theorem affordable_gain_refused :
    ¬ ∀ (policy : Policy) (source target : Pool) (balance minProfit : Int) (outcome : Outcome) (x : Int),
      policy.InRange → (0 < source.reserveA ∧ 0 < source.reserveB) →
      (0 < target.reserveA ∧ 0 < target.reserveB) → 0 ≤ minProfit →
      solve policy source target balance minProfit = .ok outcome →
      optimalTradeSize policy source target = .ok x →
      ((∃ plan, outcome = .plan plan ∧ plan.executeAmount = min x balance) ↔
        0 < x ∧ 0 < min x balance ∧ Worthwhile source target (min x balance) minProfit) := by
  intro h
  have hbest : roundTrip etherSeller etherNarrowBuyer 11825928913 =
      .ok (3887233160282746634, 11798387855) := by decide +kernel
  have hafforded : roundTrip etherSeller etherNarrowBuyer 5000000000 =
      .ok (1647254575707154742, 5010856427) := by decide +kernel
  have hwritten : 0 < (11825928913 : Int) ∧ Number.isWritable 11825928913 = true :=
    ⟨by decide, by decide +kernel⟩
  have hleast : (0 : Int) < Number.tooLong := by decide +kernel
  have hrefused := solve_of_loss optimalTradeSize_narrow hwritten hbest 5000000000 hleast (by decide)
  have hiff := h .default etherSeller etherNarrowBuyer 5000000000 0 _ _ default_inRange
    (by decide) (by decide) (by decide) hrefused optimalTradeSize_narrow
  obtain ⟨plan, hplan, -⟩ := hiff.2 ⟨by decide, by decide, _, _, hafforded, by decide⟩
  cases hplan

end CrossVenue
