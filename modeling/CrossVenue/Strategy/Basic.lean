import CrossVenue.Arbitrage.Route
import CrossVenue.Arbitrage.Swaps
import CrossVenue.Settings
import CrossVenue.Strategy.Decision
import CrossVenue.Venue.Dispatcher
import CrossVenue.Venue.Transfer

/-!
# Strategies

A strategy quotes the pools of a pair from what queries returned, decides whether a round trip through
two pools is worth trading, and encodes the trade: swap on the source, transfer to the target's plane,
swap on the target, transfer back.  It also encodes single swaps.

* `arbitrage_hold_of_short` : with fewer than two pools there is nothing to decide.
-/

set_option autoImplicit false

namespace CrossVenue

/-- What a strategy knows. -/
structure Strategy where
  registry : Registry
  settings : Settings

/-- What queries returned about the pools of a pair. -/
structure PairState where
  /-- The answer to Astroport's pool query. -/
  astroport : Json
  /-- The account records of Raydium's vaults and of its pool. -/
  raydium : Json
  /-- Uniswap's reserves, the settlement asset's first, if they are known. -/
  uniswap : Option (List Int)

/-- A request to trade the settlement asset through a pair. -/
structure ArbitrageRequest where
  pair : Text
  /-- How much of the settlement asset there is to trade. -/
  amount : Int
  who : Trader
  /-- What the profit has to exceed; the settings say it otherwise. -/
  minProfit : Option Int

/-- A request for a single swap. -/
structure SwapRequest where
  venue : Json
  source : Json
  target : Json
  amount : Json
  who : Trader

namespace Strategy

/-- The dispatcher of the registry's venues, with the budget of the settings. -/
def dispatcher (s : Strategy) : Dispatcher :=
  Dispatcher.ofRegistry s.registry (.int s.settings.svmComputeBudget.val)

/-- The pool of Uniswap's reserves; there is none while no router is configured. -/
def uniswapPools (s : Strategy) (pair : Option Text) (reserves : List Int) :
    Attempt (List Pool) :=
  match reserves with
  | [a, b] =>
    match nonEmpty? s.registry.uniswap.router, pair with
    | none, _ => .ok []
    | some _, none => failAt s.registry.uniswap.name (.pair .pairRequired)
    | some _, some pair => do
      let venue ← (s.dispatcher.composer s.registry.uniswap.name : Except Rejection Composer)
      let pool ← venue.poolOfReserves pair a b
      .ok [pool]
  | reserves => failAt s.registry.uniswap.name (.state (.reservePairLength reserves.length))

/-- The pools of what queries always return. -/
def queriedPools (room : Room) (s : Strategy) (astroport raydium : Json) : Attempt (List Pool) := do
  let first ← (s.dispatcher.composer s.registry.astroport.name : Except Rejection Composer)
  let second ← (s.dispatcher.composer s.registry.raydium.name : Except Rejection Composer)
  .ok [← first.poolOfResponse room astroport, ← second.poolOfRecords room raydium]

/-- The pools of a pair. -/
def quotePools (room : Room) (s : Strategy) (pair : Option Text) (state : PairState) :
    Attempt (List Pool) := do
  let pools ← s.queriedPools room state.astroport state.raydium
  match state.uniswap with
  | none => .ok pools
  | some reserves => do
    let more ← s.uniswapPools pair reserves
    .ok (pools ++ more)

/-- The transfer of a plan's first output to the plane of its target. -/
def transferOut (room : Room) (s : Strategy) (who : Trader) (plan : Plan) : Attempt PlaneInstruction :=
  Transfer.compose room s.registry who.sender (.str plan.source.plane) (.str plan.target.plane)
    plan.firstDenom plan.firstOutput

/-- The transfer of a plan's second output back to the plane of its source. -/
def transferBack (room : Room) (s : Strategy) (who : Trader) (plan : Plan) : Attempt PlaneInstruction :=
  Transfer.compose room s.registry who.sender (.str plan.target.plane) (.str plan.source.plane)
    plan.secondDenom plan.secondOutput

/-- The instructions of a plan. -/
def planInstructions (room : Room) (s : Strategy) (pair : Text) (who : Trader) (plan : Plan) :
    Attempt (List PlaneInstruction) := do
  let settlement := s.registry.settlementDenom
  let other ← (s.registry.pairOutputDenom settlement pair : Except Rejection Text)
  let (buy, sell) ← (plan.swaps (.str pair) (.str settlement) (.str other) who).attempt
  let bought ← s.dispatcher.composeSwap room buy
  let out ← s.transferOut room who plan
  let sold ← s.dispatcher.composeSwap room sell
  let back ← s.transferBack room who plan
  .ok (bought ++ [out] ++ sold ++ [back])

/-- What the profit of a request has to exceed. -/
def minProfit (s : Strategy) (r : ArbitrageRequest) : Int :=
  r.minProfit.getD s.settings.defaultMinProfit

/-- Decides on a round trip between the pools of a route. -/
def decideRoute (room : Room) (s : Strategy) (r : ArbitrageRequest) (route : Route) :
    Attempt Decision := do
  let outcome ← solve s.settings.policy route.source.pool route.target.pool r.amount (s.minProfit r)
  match outcome with
  | .noTrade answer => .ok (.hold (.notWorthwhile answer.reason))
  | .plan plan => do
    let instructions ← s.planInstructions room r.pair r.who plan
    .ok (.act instructions)

/-- Decides on a round trip through the cheapest and the dearest of some pools. -/
def arbitrage (room : Room) (s : Strategy) (r : ArbitrageRequest) (pools : List Pool) :
    Attempt Decision := do
  (s.registry.mustSupport r.pair : Except Rejection Unit)
  if r.amount < 0 then failWith (.pool (.negativeAmount r.amount))
  else if pools.length < 2 then .ok (.hold .tooFewPools)
  else
    let route ← (selectRoute pools : Except Rejection Route)
    if route.isTrivial then .ok (.hold .oneRate) else s.decideRoute room r route

/-- The pair of another asset and the settlement asset, if the registry lists it. -/
def settlementPair (s : Strategy) (other : Json) : Attempt Text := do
  requireWritable other.inSentence
  let pair := pairOf other.inSentence.text s.registry.settlementDenom
  (s.registry.mustSupport pair : Except Rejection Unit)
  .ok pair

/-- The pair through which a swap between the settlement asset and another one goes. -/
def swapPair (s : Strategy) (source target : Json) : Attempt Text :=
  let settlement := s.registry.settlementDenom
  if source.isText settlement then s.settlementPair target
  else if target.isText settlement then s.settlementPair source
  else failWith (.pair (.unsupportedSwap source.inSentence target.inSentence s.registry.pairs))

/-- Encodes a single swap. -/
def swap (room : Room) (s : Strategy) (r : SwapRequest) : Attempt Decision := do
  let pair ← s.swapPair r.source r.target
  let swap ← (Swap.reader (Swap.draft r.venue (.str pair) r.who.sender r.source r.amount
    r.who.senderSvm)).attempt
  let instructions ← s.dispatcher.composeSwap room swap
  .ok (.act instructions)

theorem arbitrage_hold_of_short {room : Room} {s : Strategy} {r : ArbitrageRequest} {pools : List Pool}
    (hp : r.pair ∈ s.registry.pairs) (ha : 0 ≤ r.amount) (h : pools.length < 2) :
    s.arbitrage room r pools = .ok (.hold .tooFewPools) := by
  have hm : s.registry.mustSupport r.pair = .ok () := Registry.mustSupport_eq_ok_iff.mpr hp
  have hn : ¬ r.amount < 0 := Int.not_lt.mpr ha
  unfold arbitrage
  rw [hm]
  change (if r.amount < 0 then _ else if pools.length < 2 then _ else _) = _
  rw [if_neg hn, if_pos h]

end Strategy

end CrossVenue
