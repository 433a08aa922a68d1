import CrossVenue.Loose.Route
import CrossVenue.Loose.Solver
import CrossVenue.Strategy.Basic

/-!
# Strategies over loose pools

Quoting and deciding when amounts, reserves or pools may be of any kind.

* `arbitrage_exact` : a request of integers between pools is decided by the strategy.
-/

set_option autoImplicit false

namespace CrossVenue

/-- The loose pool of a pair with Uniswap reserves that are already in order. -/
def Uniswap.loosePool (r : Registry) (pair a b : Json) : Attempt LoosePool :=
  match pair, a, b with
  | .str pair, .int a, .int b => do
    let pool ← (poolOfReserves r pair a b : Except Rejection Pool)
    .ok (.ofPool pool)
  | pair, a, b => do
    let pair ← (r.supportedPair pair : Except Rejection Text)
    let other ← (r.pairOutputDenom r.settlementDenom pair : Except Rejection Text)
    Offer.toPool
      { venue := .str r.uniswap.name
        plane := .str Plane.evm.name
        reserveA := a
        reserveB := b
        feeRate := .int r.uniswap.feeRate.val
        convention := .str FeeConvention.preFee.name
        denomA := .str r.settlementDenom
        denomB := .str other
        granularity := .int 1 }

/-- The loose pool of a pair with given reserves. -/
def Composer.loosePool : Composer → Json → Json → Json → Attempt LoosePool
  | uniswap r, pair, a, b => Uniswap.loosePool r pair a b
  | other v, .str pair, .int a, .int b => do
    let pool ← v.poolOfReserves pair a b
    .ok (.ofPool pool)
  | _, _, _, _ => breakDown .unsupported

/-- A request to trade the settlement asset through a pair, in values of any kind. -/
structure LooseRequest where
  pair : Json
  amount : Json
  who : Trader
  /-- What the profit has to exceed; the settings say it when it is null. -/
  minProfit : Json

/-- The request that values are, if they are a text and integers. -/
def LooseRequest.request? : LooseRequest → Option ArbitrageRequest
  | ⟨.str pair, .int amount, who, .null⟩ => some ⟨pair, amount, who, none⟩
  | ⟨.str pair, .int amount, who, .int least⟩ => some ⟨pair, amount, who, some least⟩
  | _ => none

namespace Strategy

/-- The integers that values are, if they are a list of them. -/
def integers? : Json → Option (List Int)
  | .arr items => items.mapM fun
    | .int n => some n
    | _ => none
  | _ => none

/-- The loose pool of Uniswap's reserves; there is none while no router is configured. -/
def looseUniswapPools (s : Strategy) (pair reserves : Json) : Attempt (List LoosePool) :=
  match reserves.parts? with
  | none => breakDown .wrongKind
  | some [a, b] =>
    match nonEmpty? s.registry.uniswap.router, pair with
    | none, _ => .ok []
    | some _, .null => failAt s.registry.uniswap.name (.pair .pairRequired)
    | some _, pair => do
      let venue ← (s.dispatcher.composer s.registry.uniswap.name : Except Rejection Composer)
      let pool ← venue.loosePool pair a b
      .ok [pool]
  | some parts => failAt s.registry.uniswap.name (.state (.reservePairLength parts.length))

/-- The state that values are, and the pair, if they are of the kinds that are usual. -/
def usualState? (pair astroport raydium reserves : Json) : Option (Option Text × PairState) := do
  let pair ← match pair with
    | .null => some none
    | .str pair => some (some pair)
    | _ => none
  let reserves ← match reserves with
    | .null => some none
    | v => (integers? v).map some
  some (pair, ⟨astroport, raydium, reserves⟩)

/-- The loose pools of a pair. -/
def looseQuotePools (room : Room) (s : Strategy) (pair astroport raydium reserves : Json) :
    Attempt (List LoosePool) :=
  match usualState? pair astroport raydium reserves with
  | some (pair, state) => do
    let pools ← s.quotePools room pair state
    .ok (pools.map .ofPool)
  | none => do
    let pools ← s.queriedPools room astroport raydium
    match reserves with
    | .null => .ok (pools.map .ofPool)
    | reserves => do
      let more ← s.looseUniswapPools pair reserves
      .ok (pools.map .ofPool ++ more)

/-- The instructions of a loose plan. -/
def loosePlanInstructions (room : Room) (s : Strategy) (pair : Text) (who : Trader) (plan : LoosePlan) :
    Attempt (List PlaneInstruction) := do
  let settlement := s.registry.settlementDenom
  let other ← (s.registry.pairOutputDenom settlement pair : Except Rejection Text)
  let (buy, sell) ← (plan.swaps (.str pair) (.str settlement) (.str other) who).attempt
  let bought ← s.dispatcher.composeSwap room buy
  let out ← Transfer.composeValue room s.registry who.sender plan.source.plane plan.target.plane
    plan.firstDenom plan.firstOutput.toJson
  let sold ← s.dispatcher.composeSwap room sell
  let back ← Transfer.composeValue room s.registry who.sender plan.target.plane plan.source.plane
    plan.secondDenom plan.secondOutput.toJson
  .ok (bought ++ [out] ++ sold ++ [back])

/-- What there is to trade and what the profit has to exceed. -/
def terms (s : Strategy) (r : LooseRequest) : Terms :=
  { balance := r.amount
    minProfit := match r.minProfit with
      | .null => .int s.settings.defaultMinProfit
      | v => v }

/-- Decides on a round trip between the loose pools of a route. -/
def decideLooseRoute (room : Room) (s : Strategy) (r : LooseRequest) (pair : Text) (route : LooseRoute) :
    Attempt Decision := do
  let outcome ← (s.terms r).solve (.ofPolicy s.settings.policy) route.source.pool route.target.pool
  match outcome with
  | .noTrade reason _ _ => .ok (.hold (.notWorthwhile reason))
  | .plan plan => do
    let instructions ← s.loosePlanInstructions room pair r.who plan
    .ok (.act instructions)

/-- Decides on a round trip through the cheapest and the dearest of some loose pools, if one of the numbers
is no integer. -/
def decideLoosely (room : Room) (s : Strategy) (r : LooseRequest) (pools : List LoosePool) :
    Attempt Decision := do
  let pair ← (s.registry.supportedPair r.pair : Except Rejection Text)
  let amount ← r.amount.scalar
  if amount.isBelow 0 then failWith (.pool (.negativeAmount amount.piece))
  else if pools.length < 2 then .ok (.hold .tooFewPools)
  else
    let route ← LoosePool.selectRoute pools
    if route.isTrivial then .ok (.hold .oneRate) else s.decideLooseRoute room r pair route

/-- Decides on a round trip through the cheapest and the dearest of some loose pools. -/
def looseArbitrage (room : Room) (s : Strategy) (r : LooseRequest) (pools : List LoosePool) :
    Attempt Decision :=
  match r.request?, LoosePool.pools? pools with
  | some request, some exact => s.arbitrage room request exact
  | _, _ => s.decideLoosely room r pools

theorem arbitrage_exact {room : Room} {s : Strategy} {r : LooseRequest} {request : ArbitrageRequest}
    {pools : List LoosePool} {exact : List Pool} (hr : r.request? = some request)
    (hp : LoosePool.pools? pools = some exact) :
    s.looseArbitrage room r pools = s.arbitrage room request exact := by
  simp only [looseArbitrage, hr, hp]

end Strategy

end CrossVenue
