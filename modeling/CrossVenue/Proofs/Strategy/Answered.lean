import CrossVenue.Proofs.Strategy.RoundTrip
import CrossVenue.Proofs.Venue.Composed

/-!
# Requests that are answered

A strategy without a router answers every request whose parts can be told: it quotes the pools, decides
and composes the messages, or rejects the request for a reason that can be reported.

* `Strategy.Sound` : what a strategy needs to know;
* `Strategy.answered_quotePools`, `presentable_of_quotePools` : pools from state of the form in which
  requests give it;
* `Strategy.answered_arbitrage` : decisions on presentable pools;
* `Strategy.isPlain_of_arbitrage` : every decision can be sent.
-/

set_option autoImplicit false

namespace CrossVenue

/-- A trader whose accounts are texts, of which the one on the SVM plane can stand in a message. -/
def Trader.Sayable (who : Trader) : Prop :=
  ∃ (sender : Text) (svm : Option Text), who = ⟨.str sender, Json.ofText? svm⟩ ∧
    ∀ a ∈ svm, a.isPlain = true ∧ a.length < Number.tooLong

/-- State in the form in which a request gives it, with nothing in it that is longer than a bound. -/
structure PairState.Given (bound : Nat) (state : PairState) : Prop where
  response : ∃ fields, state.astroport = .obj fields ∧ (Json.obj fields).isSmall bound = true
  records : ∃ items, state.raydium = .arr items ∧ (Json.arr items).isSmall bound = true ∧
    ∀ v ∈ items, ∃ fields, v = .obj fields
  reserves : ∀ ns ∈ state.uniswap, ns.length ≤ bound

/-- State whose answer to the pool query lists sound assets, if it lists any. -/
def PairState.SoundAssets (state : PairState) : Prop :=
  ∀ assets, state.astroport.field? "assets" = some assets → Astroport.SoundAssets assets

/-- A plan whose pools are presentable and whose amounts can stand in messages. -/
structure Plan.Tellable (plan : Plan) : Prop where
  source : ∃ plane, plan.source.Presentable plane
  target : ∃ plane, plan.target.Presentable plane
  paid : Number.isWritable plan.executeAmount = true
  bought : plan.firstOutput ≤ maxWord
  earned : plan.secondOutput ≤ maxWord

/-- A strategy on a sound registry without a router. -/
structure Strategy.Sound (s : Strategy) : Prop where
  coherent : s.registry.Coherent
  registry : s.registry.Sound
  no_router : nonEmpty? s.registry.uniswap.router = none

theorem Settings.policy_inRange (s : Settings) : s.policy.InRange where
  mild := ⟨Int.natCast_nonneg _, Int.ofNat_le.2 s.mildPercent.property⟩
  moderate := ⟨Int.natCast_nonneg _, Int.ofNat_le.2 s.moderatePercent.property⟩
  severe := ⟨Int.natCast_nonneg _, Int.ofNat_le.2 s.severePercent.property⟩

namespace Strategy

variable {room : Room} {s : Strategy} (hs : s.Sound)

/-! ## Pools -/

section

variable {bound : Nat} {state : PairState} {pair : Option Text}

include hs

theorem answered_uniswapPools {reserves : List Int} (h : reserves.length < Number.tooLong) :
    Answered (s.uniswapPools pair reserves) := by
  unfold uniswapPools
  split
  · rw [hs.no_router]
    exact .of_ok rfl
  · refine answered_failAt hs.registry.uniswap_name ?_
    simp [Cause.Sayable, Cause.sentence, StateFault.sentence, Cause.omitted,
      Number.isWritable_natCast h]

/-- Without a router no pool is quoted from reserves. -/
theorem uniswapPools_eq_ok {reserves : List Int} {pools : List Pool}
    (h : s.uniswapPools pair reserves = .ok pools) : pools = [] := by
  unfold uniswapPools at h
  split at h
  · rw [hs.no_router] at h
    cases h
    rfl
  · cases h

theorem queriedPools_eq (astroport raydium : Json) :
    s.queriedPools room astroport raydium = (do
      let first ← Astroport.poolOfResponse room s.registry astroport
      let second ← Raydium.poolOfRecords room s.registry raydium
      .ok [first, second]) := by
  have hfirst := Dispatcher.composer_venueOn hs.coherent (.int s.settings.svmComputeBudget.val)
    .cosmos
  have hsecond := Dispatcher.composer_venueOn hs.coherent (.int s.settings.svmComputeBudget.val)
    .svm
  simp only [Registry.venueOn] at hfirst hsecond
  rw [queriedPools, dispatcher, hfirst, hsecond]
  rfl

variable (hstate : state.Given bound) (hassets : state.SoundAssets)

include hstate hassets

theorem answered_queriedPools (hbound : bound < Number.tooLong) :
    Answered (s.queriedPools room state.astroport state.raydium) := by
  obtain ⟨fields, hfields, hsmall⟩ := hstate.response
  obtain ⟨items, hitems, hsmall', hobjects⟩ := hstate.records
  rw [PairState.SoundAssets, hfields] at hassets
  rw [queriedPools_eq hs, hfields, hitems]
  refine (Astroport.answered_poolOfResponse hs.registry hassets hsmall).bind fun _ _ => ?_
  exact (Raydium.answered_poolOfRecords hs.registry hbound hsmall' hobjects).bind fun _ _ =>
    .of_ok rfl

theorem presentable_of_queriedPools {pools : List Pool}
    (h : s.queriedPools room state.astroport state.raydium = .ok pools) :
    ∀ p ∈ pools, ∃ plane, p.Presentable plane := by
  obtain ⟨fields, hfields, hsmall⟩ := hstate.response
  rw [PairState.SoundAssets, hfields] at hassets
  rw [queriedPools_eq hs, hfields] at h
  simp only [bind_eq_ok_iff, Except.ok.injEq] at h
  obtain ⟨first, hfirst, second, hsecond, rfl⟩ := h
  simp only [List.forall_mem_cons]
  exact ⟨⟨_, Astroport.presentable_of_response hs.registry hassets hsmall hfirst⟩,
    ⟨_, Raydium.presentable_of_records hs.registry hsecond⟩, by simp⟩

theorem answered_quotePools (hbound : bound < Number.tooLong) :
    Answered (s.quotePools room pair state) := by
  unfold quotePools
  refine (answered_queriedPools hs hstate hassets hbound).bind fun pools _ => ?_
  split
  · exact .of_ok rfl
  · rename_i reserves hreserves
    have hlength := hstate.reserves reserves hreserves
    exact (answered_uniswapPools hs (hlength.trans_lt hbound)).bind fun _ _ => .of_ok rfl

theorem presentable_of_quotePools {pools : List Pool} (h : s.quotePools room pair state = .ok pools) :
    ∀ p ∈ pools, ∃ plane, p.Presentable plane := by
  obtain ⟨queried, hqueried, h⟩ := bind_eq_ok_iff.1 h
  have hpools := presentable_of_queriedPools hs hstate hassets hqueried
  split at h
  · cases h
    exact hpools
  · obtain ⟨more, hmore, h⟩ := bind_eq_ok_iff.1 h
    cases uniswapPools_eq_ok hs hmore
    cases h
    rwa [List.append_nil]

end

/-! ## Decisions -/

/-- Both requests of a plan are read. -/
theorem swaps_of_named (plan : Plan) (pair settlement other sender : Text) (svm : Option Text) :
    plan.swaps (.str pair) (.str settlement) (.str other) ⟨.str sender, Json.ofText? svm⟩ =
      .accepted (⟨plan.source.venue, pair, sender, settlement, plan.executeAmount, svm⟩,
        ⟨plan.target.venue, pair, sender, other, plan.firstOutput, svm⟩) := by
  have hbuy := Swap.reader_toJson
    ⟨plan.source.venue, pair, sender, settlement, plan.executeAmount, svm⟩
  have hsell := Swap.reader_toJson ⟨plan.target.venue, pair, sender, other, plan.firstOutput, svm⟩
  exact Checked.andThen_eq_accepted_iff.2
    ⟨_, hbuy, Checked.map_eq_accepted_iff.2 ⟨_, hsell, rfl⟩⟩

section

variable {pair : Text} (hpair : pair.isPlain = true) {who : Trader} (hwho : who.Sayable)

include hs hpair hwho

theorem answered_planInstructions {plan : Plan} (hplan : plan.Tellable) :
    Answered (s.planInstructions room pair who plan) := by
  obtain ⟨sender, svm, rfl, hsvm⟩ := hwho
  obtain ⟨start, hsource⟩ := hplan.source
  obtain ⟨finish, htarget⟩ := hplan.target
  have hbudget : readBudget (Raydium.budgetOr s.registry (.int s.settings.svmComputeBudget.val)) =
      .ok s.settings.svmComputeBudget.val :=
    readBudget_eq_ok_iff.2 ⟨rfl, s.settings.svmComputeBudget.property⟩
  have hswap : ∀ {swap : Swap}, swap.Sayable → Answered (s.dispatcher.composeSwap room swap) :=
    Dispatcher.answered_composeSwap hs.registry hs.no_router hbudget
  have htransfer : ∀ {source target : Plane} {denom : Json} {n : Nat}, source.Names denom →
      n ≤ maxWord → Answered (Transfer.compose room s.registry (.str sender) (.str source.name)
        (.str target.name) denom n) :=
    fun hd hn => Transfer.answered_compose room s.registry sender hd hn
  unfold planInstructions
  simp only [swaps_of_named]
  refine (Registry.judged_pairOutputDenom hpair _ hs.registry.settlement).lift.bind
    fun other hother => ?_
  have hother' := Registry.isPlain_of_pairOutputDenom hpair (lift_eq_ok_iff.1 hother)
  refine FailsOnly.bind (.of_ok rfl) fun _ heq => ?_
  cases heq
  refine (hswap ?_).bind fun _ _ => ?_
  · exact
      { venue := hsource.nameable.venue
        pair := hpair
        denom := hs.registry.settlement
        amount := hplan.paid
        account := hsvm }
  have hout : Answered (s.transferOut room ⟨.str sender, Json.ofText? svm⟩ plan) := by
    unfold transferOut
    rw [hsource.plane_eq, htarget.plane_eq]
    exact htransfer hsource.namesB hplan.bought
  have hback : Answered (s.transferBack room ⟨.str sender, Json.ofText? svm⟩ plan) := by
    unfold transferBack
    rw [hsource.plane_eq, htarget.plane_eq]
    exact htransfer htarget.namesA hplan.earned
  refine hout.bind fun _ _ => (hswap ?_).bind fun _ _ => hback.bind fun _ _ => .of_ok rfl
  exact
    { venue := htarget.nameable.venue
      pair := hpair
      denom := hother'
      amount := Number.isWritable_of_le_maxWord hplan.bought
      account := hsvm }

omit hs hpair hwho in
/-- A plan between presentable pools can be told: both of its quotes are words. -/
theorem tellable_of_solve {policy : Policy} {source target : Pool} {balance least : Int} {plan : Plan}
    (hsource : ∃ plane, source.Presentable plane) (htarget : ∃ plane, target.Presentable plane)
    (h : solve policy source target balance least = .ok (.plan plan)) : plan.Tellable := by
  obtain ⟨optimal, -, -, -, -, first, second, htrip, -, rfl⟩ := solve_eq_plan_iff.1 h
  obtain ⟨hfirst, hsecond⟩ := roundTrip_eq_ok_iff.1 htrip
  obtain ⟨n, hn, hword, -⟩ := Pool.quote_eq_ok_iff.1 hfirst
  exact
    { source := hsource
      target := htarget
      paid := by
        simp only [hn]
        exact Number.isWritable_of_le_maxWord hword
      bought := Pool.quote_le hfirst
      earned := Pool.quote_le hsecond }

variable {pools : List Pool} (hpools : ∀ p ∈ pools, ∃ plane, p.Presentable plane) {amount : Int}
  (hamount : Number.isWritable amount = true) {least : Option Int}
  (hleast : Number.isWritable (s.minProfit ⟨pair, amount, who, least⟩) = true)

include hpools hamount hleast

/-- **A request whose parts can be told is answered or rejected.** -/
theorem answered_arbitrage : Answered (s.arbitrage room ⟨pair, amount, who, least⟩ pools) := by
  have hnameable : ∀ p ∈ pools, p.Nameable := by
    intro p hp
    obtain ⟨plane, hplane⟩ := hpools p hp
    exact hplane.nameable
  unfold arbitrage
  refine (Registry.judged_mustSupport hpair _).lift.bind fun _ _ => ?_
  split
  · exact answered_failWith (by simp [PoolFault.sentence, hamount])
  split
  · exact .of_ok rfl
  refine (judged_selectRoute hnameable).lift.bind fun route hroute => ?_
  obtain ⟨hsource, htarget⟩ := selectRoute_getElem? (lift_eq_ok_iff.1 hroute)
  have hsource' := hpools _ (List.mem_of_getElem? hsource)
  have htarget' := hpools _ (List.mem_of_getElem? htarget)
  split
  · exact .of_ok rfl
  unfold decideRoute
  refine (answered_solve (hnameable _ (List.mem_of_getElem? hsource))
    (hnameable _ (List.mem_of_getElem? htarget)) s.settings.policy_inRange _ hleast).bind
    fun outcome houtcome => ?_
  cases outcome with
  | noTrade answer => exact .of_ok rfl
  | plan plan =>
    have hplan := tellable_of_solve hsource' htarget' houtcome
    exact (answered_planInstructions hs hpair hwho hplan).bind fun _ _ => .of_ok rfl

end

/-! ## What is decided can be sent -/

theorem isPlain_of_planInstructions {pair : Text} {who : Trader} {plan : Plan}
    {is : List PlaneInstruction} (h : s.planInstructions room pair who plan = .ok is) :
    ∀ i ∈ is, i.toJson.isPlain = true := by
  simp only [planInstructions, bind_eq_ok_iff, Except.ok.injEq] at h
  obtain ⟨_, -, ⟨buy, sell⟩, -, bought, hbought, out, hout, sold, hsold, back, hback, rfl⟩ := h
  simp only [List.forall_mem_append, List.forall_mem_singleton]
  exact ⟨⟨⟨Dispatcher.isPlain_of_composeSwap hbought, Transfer.isPlain_of_compose hout⟩,
    Dispatcher.isPlain_of_composeSwap hsold⟩, Transfer.isPlain_of_compose hback⟩

/-- What is held has the reason that was written. -/
theorem isPlain_of_holdFor {reason : NoTradeReason} {optimal projected : Int} {answer : NoTrade}
    (hreason : reason.text.isPlain = true)
    (h : holdFor reason optimal projected = .ok (.noTrade answer)) :
    answer.reason.text.isPlain = true := by
  obtain ⟨-, hanswer⟩ := holdFor_eq_ok_iff.1 h
  cases hanswer
  exact hreason

/-- The reasons of the solver show nothing but numbers. -/
theorem isPlain_of_solve {policy : Policy} {source target : Pool} {balance least : Int}
    {answer : NoTrade} (h : solve policy source target balance least = .ok (.noTrade answer)) :
    answer.reason.text.isPlain = true := by
  have hnumbers : ∀ a b : Int,
      (NoTradeReason.projectedTooLow (.number a) (.number b)).text.isPlain = true ∧
        (NoTradeReason.realizedTooLow (.number a) (.number b)).text.isPlain = true := by
    intro a b
    constructor <;> refine Sentence.isPlain_text ?_ <;> simp [NoTradeReason.sentence, Piece.written]
  obtain ⟨optimal, -, h⟩ := bind_eq_ok_iff.1 h
  split at h
  · obtain ⟨_, -, h⟩ := bind_eq_ok_iff.1 h
    exact isPlain_of_holdFor rfl h
  obtain ⟨⟨first, second⟩, -, h⟩ := bind_eq_ok_iff.1 h
  obtain ⟨_, -, h⟩ := bind_eq_ok_iff.1 h
  split at h
  · exact isPlain_of_holdFor (hnumbers _ _).1 h
  simp only [sizeForBalance] at h
  split at h
  · exact isPlain_of_holdFor rfl h
  obtain ⟨⟨first, second⟩, -, h⟩ := bind_eq_ok_iff.1 h
  dsimp only at h
  split at h
  · exact isPlain_of_holdFor (hnumbers _ _).2 h
  · obtain ⟨_, -, h⟩ := bind_eq_ok_iff.1 h
    cases h

theorem isPlain_hold {why : HoldReason} (h : why.text.isPlain = true) :
    (Decision.hold why).toJson.isPlain = true := by
  simp [Decision.toJson, Decision.instructions, Decision.reason?, Json.ofText?, Json.isPlain,
    Json.every, Json.everyField, Json.everyItem, h]

theorem isPlain_act {is : List PlaneInstruction} (h : ∀ i ∈ is, i.toJson.isPlain = true) :
    (Decision.act is).toJson.isPlain = true := by
  have hitems : (Json.arr (is.map PlaneInstruction.toJson)).isPlain = true :=
    Json.every_arr_iff.2 ⟨rfl, List.forall_mem_map.2 h⟩
  refine Json.every_obj_iff.2 ⟨rfl, ?_⟩
  simp only [Decision.instructions, Decision.reason?, Json.ofText?, List.forall_mem_cons]
  exact ⟨⟨Text.isPlain_ofString _, hitems⟩, ⟨Text.isPlain_ofString _, rfl⟩, by simp⟩

/-- **Whatever is decided can be sent.** -/
theorem isPlain_of_arbitrage {request : ArbitrageRequest} {pools : List Pool} {decision : Decision}
    (h : s.arbitrage room request pools = .ok decision) : decision.toJson.isPlain = true := by
  simp only [arbitrage, bind_eq_ok_iff] at h
  obtain ⟨-, -, h⟩ := h
  split at h
  · cases h
  split at h
  · cases h
    exact isPlain_hold rfl
  obtain ⟨route, -, h⟩ := bind_eq_ok_iff.1 h
  split at h
  · cases h
    exact isPlain_hold rfl
  simp only [decideRoute, bind_eq_ok_iff] at h
  obtain ⟨outcome, houtcome, h⟩ := h
  cases outcome with
  | noTrade answer =>
    cases h
    exact isPlain_hold (isPlain_of_solve houtcome)
  | plan plan =>
    obtain ⟨is, his, h⟩ := bind_eq_ok_iff.1 h
    cases h
    exact isPlain_act (isPlain_of_planInstructions his)

end Strategy

end CrossVenue
