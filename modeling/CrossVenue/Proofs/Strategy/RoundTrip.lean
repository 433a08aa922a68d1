import CrossVenue.Proofs.Arbitrage.Plan
import CrossVenue.Proofs.Arbitrage.Route
import CrossVenue.Proofs.Arbitrage.Swaps
import CrossVenue.Proofs.Venue.Dispatcher
import CrossVenue.Proofs.Venue.Transfer
import CrossVenue.Strategy.Basic

/-!
# What the messages of a round trip say

A strategy that acts sends four messages: a swap, a transfer, a swap, a transfer back.  Read back, and
counted in common units, they move the amounts of one round trip: what the first swap gives is carried to
the other plane as far as that plane can hold it, the second swap offers what arrives, and what it earns
is carried back.

* `RoundTrip.Planned` : a round trip between two pools, quoted by both;
* `RoundTrip.Told` : four messages that tell a round trip to the planes;
* `Strategy.planInstructions_told` : the messages of a plan tell its round trip;
* `Strategy.arbitrage_coherent` : whatever a strategy does is such a round trip.
-/

set_option autoImplicit false

namespace CrossVenue

/-- A round trip: the settlement asset buys another one on the source, and that is sold on the target.
Amounts are in the units of the COSMOS plane. -/
structure RoundTrip where
  source : Pool
  target : Pool
  /-- The plane that holds the source. -/
  start : Plane
  /-- The plane that holds the target. -/
  finish : Plane
  paid : Nat
  bought : Nat
  earned : Nat

namespace RoundTrip

/-- The part of what is bought that the target's plane can hold. -/
def carried (t : RoundTrip) (factor : Nat) : Nat := roundDown t.bought (t.finish.unit factor)

/-- A round trip between two pools of a list, on different planes, that both of them quote and that gains
enough. -/
structure Planned (r : Registry) (other : Text) (pools : List Pool) (amount minProfit : Int)
    (t : RoundTrip) : Prop where
  source_mem : t.source ∈ pools
  target_mem : t.target ∈ pools
  source_placed : Placed r other t.start t.source
  target_placed : Placed r other t.finish t.target
  start_ne : t.start ≠ t.finish
  paid_pos : 0 < t.paid
  paid_le : t.paid ≤ amount
  bought_eq : t.source.quote t.paid .aToB = .ok t.bought
  earned_eq : t.target.quote t.bought .bToA = .ok t.earned
  profit_gt : minProfit < t.earned - t.paid

/-- Four messages that tell a round trip to the planes.  Amounts on the SVM plane are in its own units,
of which both planes hold a whole number. -/
structure Told (r : Registry) (other : Text) (factor : Nat) (sender : Text) (t : RoundTrip)
    (buy out sell back : PlaneInstruction) : Prop where
  buy_plane : buy.plane = t.start.machine
  buy_offer : buy.offer? = some ⟨r.offerNameOn r.settlementDenom t.start, t.paid⟩
  out_moved : out.moved? = some ⟨t.start, t.finish, sender.rejoined, sender.rejoined,
    (Transfer.bankName t.start (r.nameOn other t.start)).rejoined,
    t.carried factor / t.start.unit factor⟩
  sell_plane : sell.plane = t.finish.machine
  sell_offer : sell.offer? =
    some ⟨r.offerNameOn other t.finish, t.carried factor / t.finish.unit factor⟩
  back_moved : back.moved? = some ⟨t.finish, t.start, sender.rejoined, sender.rejoined,
    (Transfer.bankName t.finish (r.nameOn r.settlementDenom t.finish)).rejoined, t.earned⟩
  start_dvd : t.start.unit factor ∣ t.carried factor
  finish_dvd : t.finish.unit factor ∣ t.carried factor
  /-- Less than a unit of the target's plane is left behind. -/
  carried_le : t.carried factor ≤ t.bought
  bought_lt : t.bought < t.carried factor + t.finish.unit factor

end RoundTrip

/-! ## Amounts in units of planes -/

theorem Plane.unit_pos (plane : Plane) {factor : Nat} (h : 0 < factor) : 0 < plane.unit factor := by
  cases plane with
  | svm => exact h
  | _ => exact Nat.one_pos

theorem lt_roundDown_add (amount : Nat) {unit : Nat} (h : 0 < unit) :
    amount < roundDown amount unit + unit := Nat.lt_div_mul_add h

/-- What is left of whole units of one plane by rounding for another one are whole units of both. -/
theorem unit_dvd_roundDown {start finish : Plane} (hne : start ≠ finish) {amount factor : Nat}
    (h : start.unit factor ∣ amount) :
    start.unit factor ∣ roundDown amount (finish.unit factor) := by
  by_cases hs : start = .svm
  · have hf : finish ≠ .svm := fun hf => hne (hs.trans hf.symm)
    rw [Plane.unit_of_ne hf, roundDown_one]
    exact h
  · rw [Plane.unit_of_ne hs]
    exact Nat.one_dvd _

/-! ## The messages -/

namespace Strategy

variable {room : Room} {s : Strategy} {other : Text} {d : Denom}

/-- The message of a dispatched swap of an asset whose factor is known. -/
theorem composeSwap_units (hr : s.registry.Coherent) {plane : Plane} {swap : Swap} {denom : Text}
    {factor n : Nat} (hv : swap.venue = s.registry.venueOn plane) (hd : swap.denom = denom)
    (ha : swap.amount = n) (hf : s.registry.decimalFactor (s.registry.svmMint denom) = factor)
    {is : List PlaneInstruction} (h : s.dispatcher.composeSwap room swap = .ok is) :
    ∃ i, is = [i] ∧ i.plane = plane.machine ∧
      i.offer? = some ⟨s.registry.offerNameOn denom plane, n / plane.unit factor⟩ := by
  obtain ⟨i, m, his, hm, hplane, hoffer⟩ := Dispatcher.composeSwap_offers hr hv h
  have hmn : m = n := Int.natCast_inj.1 (hm.trans ha)
  rw [hd, hf, hmn] at hoffer
  exact ⟨i, his, hplane, hoffer⟩

/-- **The messages of a plan tell its round trip.** -/
theorem planInstructions_told (hr : s.registry.Coherent)
    (hd : s.registry.denoms.lookup other = some d) {pair : Text}
    (hother : s.registry.pairOutputDenom s.registry.settlementDenom pair = .ok other)
    {who : Trader} {plan : Plan} {paid : Nat} (hpaid : plan.executeAmount = paid)
    {start finish : Plane} (hne : start ≠ finish)
    (hs : Placed s.registry other start plan.source)
    (ht : Placed s.registry other finish plan.target)
    (hfirst : plan.source.quote paid .aToB = .ok plan.firstOutput)
    {is : List PlaneInstruction} (h : s.planInstructions room pair who plan = .ok is) :
    ∃ sender buy out sell back, who.sender = .str sender ∧ is = [buy, out, sell, back] ∧
      RoundTrip.Told s.registry other d.decimalFactor.val sender
        ⟨plan.source, plan.target, start, finish, paid, plan.firstOutput, plan.secondOutput⟩
        buy out sell back := by
  simp only [planInstructions, hother, bind_eq_ok_iff, lift_eq_ok_iff, attempt_eq_ok_iff,
    Except.ok.injEq, exists_eq_left'] at h
  obtain ⟨⟨buy, sell⟩, hswaps, bought, hbought, out, hout, sold, hsold, back, hback, rfl⟩ := h
  obtain ⟨sender, hsender, ⟨hbv, hbd, hba⟩, hsv, hsd, hsa⟩ := Plan.swaps_requests hswaps
  obtain ⟨hone, hmint, hsymbol⟩ := hr.settlement_factors
  have hfactor := hr.decimalFactor_svmMint hd
  have hpos : 0 < d.decimalFactor.val := d.decimalFactor.property
  have hunit := finish.unit_pos hpos
  -- both swaps
  obtain ⟨b, rfl, hbplane, hboffer⟩ :=
    composeSwap_units hr (hbv.trans hs.venue_eq) hbd (hba.trans hpaid) hone hbought
  obtain ⟨q, rfl, hqplane, hqoffer⟩ :=
    composeSwap_units hr (hsv.trans ht.venue_eq) hsd hsa hfactor hsold
  rw [Plane.unit_one, Nat.div_one] at hboffer
  rw [← roundDown_div _ hunit] at hqoffer
  -- both transfers
  have hdenom : plan.firstDenom = .str (s.registry.nameOn other start) := hs.denomB_eq
  have hdenom' : plan.secondDenom = .str (s.registry.nameOn s.registry.settlementDenom finish) :=
    ht.denomA_eq
  rw [transferOut, hsender, hs.plane_eq, ht.plane_eq, hdenom] at hout
  rw [transferBack, hsender, hs.plane_eq, ht.plane_eq, hdenom'] at hback
  have hout' := Transfer.compose_units hne (hr.factorOfMint_svmMint hd)
    (Registry.Coherent.factorOfSymbol_symbol hd) hout
  have hback' := Transfer.compose_units hne.symm hmint hsymbol hback
  rw [Plane.unit_one, Plane.unit_one, roundDown_one, Nat.div_one] at hback'
  -- what the source gives is in whole units of its plane
  have hwhole : start.unit d.decimalFactor.val ∣ plan.firstOutput := by
    have hdvd := Pool.granularity_dvd_quote hfirst
    rw [hs.granularity_eq, hfactor] at hdvd
    exact hdvd
  exact ⟨sender, b, out, q, back, hsender, rfl,
    { buy_plane := hbplane
      buy_offer := hboffer
      out_moved := hout'
      sell_plane := hqplane
      sell_offer := hqoffer
      back_moved := hback'
      start_dvd := unit_dvd_roundDown hne hwhole
      finish_dvd := Nat.dvd_mul_left _ _
      carried_le := roundDown_le _ _
      bought_lt := lt_roundDown_add _ hunit }⟩

/-! ## What is decided -/

/-- A strategy that decides on a route either holds, and says why, or acts on a plan. -/
theorem decideRoute_cases {req : ArbitrageRequest} {route : Route} {decision : Decision}
    (h : s.decideRoute room req route = .ok decision) :
    (∃ why, decision = .hold why) ∨ ∃ plan is,
      solve s.settings.policy route.source.pool route.target.pool req.amount (s.minProfit req) =
        .ok (.plan plan) ∧ s.planInstructions room req.pair req.who plan = .ok is ∧
      decision = .act is := by
  simp only [decideRoute, bind_eq_ok_iff] at h
  obtain ⟨outcome, hsolve, h⟩ := h
  cases outcome with
  | noTrade answer =>
    cases h
    exact .inl ⟨_, rfl⟩
  | plan plan =>
    simp only [bind_eq_ok_iff, Except.ok.injEq] at h
    obtain ⟨is, his, rfl⟩ := h
    exact .inr ⟨plan, is, hsolve, his, rfl⟩

/-- A strategy either holds, and says why, or decides on a route that is not trivial. -/
theorem arbitrage_cases {req : ArbitrageRequest} {pools : List Pool} {decision : Decision}
    (h : s.arbitrage room req pools = .ok decision) :
    (∃ why, decision = .hold why) ∨ ∃ route, selectRoute pools = .ok route ∧
      route.isTrivial = false ∧ s.decideRoute room req route = .ok decision := by
  simp only [arbitrage, bind_eq_ok_iff] at h
  obtain ⟨-, -, h⟩ := h
  split at h
  · cases h
  · split at h
    · cases h
      exact .inl ⟨_, rfl⟩
    · simp only [bind_eq_ok_iff, lift_eq_ok_iff] at h
      obtain ⟨route, hroute, h⟩ := h
      split at h
      · cases h
        exact .inl ⟨_, rfl⟩
      · rename_i ht
        exact .inr ⟨route, hroute, Bool.eq_false_iff.2 ht, h⟩

/-- **Whatever a strategy does is one round trip.**  Either it does nothing and says why, or its four
messages tell a round trip between two of the pools, on different planes, that both pools quote. -/
theorem arbitrage_coherent (hr : s.registry.Coherent) {req : ArbitrageRequest}
    (hother : s.registry.pairOutputDenom s.registry.settlementDenom req.pair = .ok other)
    (hd : s.registry.denoms.lookup other = some d) {pools : List Pool}
    (hpools : ∀ pool ∈ pools, Quoted s.registry other pool)
    (hvenues : (pools.map Pool.venue).Nodup) {decision : Decision}
    (h : s.arbitrage room req pools = .ok decision) :
    (decision.instructions = [] ∧ decision.reason? ≠ none) ∨
    (decision.reason? = none ∧ ∃ sender t buy out sell back, req.who.sender = .str sender ∧
      decision.instructions = [buy, out, sell, back] ∧
      RoundTrip.Planned s.registry other pools req.amount (s.minProfit req) t ∧
      RoundTrip.Told s.registry other d.decimalFactor.val sender t buy out sell back) := by
  rcases arbitrage_cases h with ⟨why, rfl⟩ | ⟨route, hroute, htrivial, h⟩
  · exact .inl ⟨rfl, by simp [Decision.reason?]⟩
  rcases decideRoute_cases h with ⟨why, rfl⟩ | ⟨plan, is, hsolve, his, rfl⟩
  · exact .inl ⟨rfl, by simp [Decision.reason?]⟩
  right
  refine ⟨rfl, ?_⟩
  obtain ⟨hsource, htarget, hne⟩ := selectRoute_distinct hroute htrivial hvenues
  obtain ⟨start, hs⟩ := placed_of_quoted (hpools _ hsource)
  obtain ⟨finish, ht⟩ := placed_of_quoted (hpools _ htarget)
  have hplanes : start ≠ finish := by
    rintro rfl
    exact hne (hs.venue_eq.trans ht.venue_eq.symm)
  obtain ⟨optimal, -, -, -, hpos, first, second, htrip, hprofit, rfl⟩ := solve_eq_plan_iff.1 hsolve
  obtain ⟨paid, hpaid⟩ : ∃ paid : Nat, min optimal req.amount = paid :=
    ⟨(min optimal req.amount).toNat, by omega⟩
  rw [hpaid] at htrip hprofit hpos
  obtain ⟨hfirst, hsecond⟩ := roundTrip_eq_ok_iff.1 htrip
  obtain ⟨sender, buy, out, sell, back, hsender, his', htold⟩ :=
    planInstructions_told hr hd hother hpaid hplanes hs ht hfirst his
  refine ⟨sender, _, buy, out, sell, back, hsender, his', ?_, htold⟩
  exact
    { source_mem := hsource
      target_mem := htarget
      source_placed := hs
      target_placed := ht
      start_ne := hplanes
      paid_pos := Int.natCast_pos.1 hpos
      paid_le := hpaid ▸ min_le_right optimal req.amount
      bought_eq := hfirst
      earned_eq := hsecond
      profit_gt := hprofit }

end Strategy

/-! ## A round trip in ether -/

/-- An answer of Astroport about ether. -/
def etherResponse : Json :=
  .obj [("assets", .arr [
    .obj [("info", .obj [("native_token", .obj [("denom", .str "usdt")])]),
      ("amount", .str "3000000000000")],
    .obj [("info", .obj [("native_token", .obj [("denom", .str "eth")])]),
      ("amount", .str "1000000000000000000000")]])]

theorem etherSeller_quoted : Quoted .builtin "eth" etherSeller :=
  .astroport
    (show Astroport.readResponse .least .builtin etherResponse = .ok etherResponse from rfl)
    rfl (.inl ⟨rfl, rfl⟩) rfl

theorem etherBuyer_quoted : Quoted .builtin "eth" etherBuyer := by
  have h0 : TokenAccount.ofBytes (vaultOf etherMint 1000000000000) = .ok _ :=
    dif_neg (by decide +kernel)
  have h1 : TokenAccount.ofBytes (vaultOf tetherMint 3200000000000) = .ok _ :=
    dif_neg (by decide +kernel)
  have hf : FeeCounters.ofBytes feelessState = .ok ⟨0, 0, 0, 0⟩ := by decide +kernel
  have hpool := poolOfAccounts_eq h0 h1 hf (r := .builtin)
    (a := ⟨etherMint, 1000000000000⟩) (b := ⟨tetherMint, 3200000000000⟩) (by decide +kernel)
  have hparsed : Raydium.parsePool .builtin ⟨tetherMint, 3200000000000⟩ ⟨etherMint, 1000000000000⟩ =
      .ok etherBuyer := Raydium.parsePool_eq_ok_iff.2 ⟨rfl, by decide +kernel⟩
  exact .raydium h0 h1 (.inr ⟨by decide +kernel, by decide +kernel⟩)
    (hpool.trans ((if_neg (by decide +kernel)).trans hparsed))

/-- A percentage, which is cut to the whole. -/
def percent (n : Nat) : Schema.UpTo 100 := ⟨min n 100, Nat.min_le_right n 100⟩

/-- A strategy on the built-in registry. -/
def etherStrategy : Strategy :=
  { registry := .builtin
    settings :=
      { host := "0.0.0.0"
        port := 8000
        debug := false
        logLevel := "INFO"
        registryPath := none
        defaultMinProfit := 0
        svmComputeBudget := Settings.usualBudget
        mildThreshold := Policy.default.mildThreshold
        moderateThreshold := Policy.default.moderateThreshold
        mildPercent := percent 90
        moderatePercent := percent 95
        severePercent := percent 99 } }

/-- A request to trade twenty thousand through ether. -/
def etherRequest : ArbitrageRequest :=
  ⟨"eth-usdt", 20000000000,
    ⟨.str "lux1trader", .str "4vJ9JU1bJJE96FWSJKvHsmmFADCg4gpZQff4P3bkLKi"⟩, none⟩

theorem arbitrage_ether : (match etherStrategy.arbitrage .least etherRequest [etherSeller, etherBuyer] with
    | .ok decision => decision.instructions.length
    | .error _ => 0) = 4 := by decide +kernel

/-- The trade in ether tells a round trip. -/
theorem ether_coherent :
    Registry.builtin.Coherent ∧
    etherStrategy.registry.pairOutputDenom etherStrategy.registry.settlementDenom
      etherRequest.pair = .ok "eth" ∧
    Registry.builtin.denoms.lookup ("eth" : Text) =
      some ⟨"eth", some etherMint, none, etherFactor⟩ ∧
    (∀ pool ∈ [etherSeller, etherBuyer], Quoted .builtin "eth" pool) ∧
    ([etherSeller, etherBuyer].map Pool.venue).Nodup ∧
    ∃ decision, etherStrategy.arbitrage .least etherRequest [etherSeller, etherBuyer] = .ok decision ∧
      decision.reason? = none ∧ ∃ sender t buy out sell back,
        decision.instructions = [buy, out, sell, back] ∧
        RoundTrip.Planned .builtin "eth" [etherSeller, etherBuyer] 20000000000 0 t ∧
        RoundTrip.Told .builtin "eth" 1000000000 sender t buy out sell back := by
  have hpair : etherStrategy.registry.pairOutputDenom etherStrategy.registry.settlementDenom
      etherRequest.pair = .ok "eth" := by decide +kernel
  have hlookup : Registry.builtin.denoms.lookup ("eth" : Text) =
      some ⟨"eth", some etherMint, none, etherFactor⟩ := rfl
  have hpools : ∀ pool ∈ [etherSeller, etherBuyer], Quoted .builtin "eth" pool := by
    simp [etherSeller_quoted, etherBuyer_quoted]
  have hvenues : ([etherSeller, etherBuyer].map Pool.venue).Nodup := by decide +kernel
  refine ⟨Registry.builtin_coherent, hpair, hlookup, hpools, hvenues, ?_⟩
  have hlength := arbitrage_ether
  cases h : etherStrategy.arbitrage .least etherRequest [etherSeller, etherBuyer] with
  | error e =>
    rw [h] at hlength
    cases hlength
  | ok decision =>
    rw [h] at hlength
    rcases Strategy.arbitrage_coherent Registry.builtin_coherent hpair hlookup hpools hvenues h with
      ⟨hnil, -⟩ | ⟨hreason, sender, t, buy, out, sell, back, -, his, hp, ht⟩
    · simp [hnil] at hlength
    · exact ⟨decision, rfl, hreason, sender, t, buy, out, sell, back, his, hp, ht⟩

end CrossVenue
