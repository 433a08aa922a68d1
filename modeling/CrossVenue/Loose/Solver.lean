import CrossVenue.Arbitrage.Solver
import CrossVenue.Arbitrage.Swaps
import CrossVenue.Loose.Policy
import CrossVenue.Loose.Quote

/-!
# Arbitrage between loose pools

The round trip of the solver on numbers of any kind.  What there is to trade and what the profit has to
exceed are not looked at before sizing needs them: the profit asked for when the best size is known and
quoted, the balance when that size is worth it.

* `solve_exact` : a round trip of integers is the solver's.
-/

set_option autoImplicit false

namespace CrossVenue

/-- The size at which the fee-free round trip gains most, for the sum of the reserves of B. -/
def looseMaxProfitPointFor (total : Scalar) (a1 b1 a2 b2 : Json) : Attempt Scalar := do
  let r1 ← (← (← a1.product b1).checkWord "a1*b1").squareRoot
  let r2 ← (← (← a2.product b2).checkWord "a2*b2").squareRoot
  let root ← r1.product r2
  let numerator ← (← root.difference (← a1.product b2)).checkWord "optimal point numerator"
  numerator.truncatedQuotient total

/-- The size at which the fee-free round trip gains most, for reserves that may be any values; each is
looked at where it is first needed.  Reserves that can be joined have a sum which is no zero, so that the
product is what fails. -/
def looseMaxProfitPoint (a1 b1 a2 b2 : Json) : Attempt Scalar :=
  if b1.canJoin b2 then a1.product b1
  else do
    let total ← (← b1.scalar).sum (← b2.scalar)
    if total.isEqual 0 then failWith (.pool .undefinedOptimum)
    else looseMaxProfitPointFor total a1 b1 a2 b2

/-- The size at which the fee-free round trip gains most. -/
def maxProfitPointOf (a1 b1 a2 b2 : Json) : Attempt Scalar :=
  match a1, b1, a2, b2 with
  | .int a1, .int b1, .int a2, .int b2 => do
    let size ← (maxProfitPoint a1 b1 a2 b2 : Except Rejection Int)
    .ok size
  | a1, b1, a2, b2 => looseMaxProfitPoint a1 b1 a2 b2

/-- What there is to trade and what the profit has to exceed, as they were given. -/
structure Terms where
  balance : Json
  minProfit : Json

/-- A round trip between loose pools that is worth trading. -/
structure LoosePlan where
  source : LoosePool
  target : LoosePool
  optimalAmount : Scalar
  executeAmount : Scalar
  firstOutput : Scalar
  secondOutput : Scalar
  profit : Scalar

/-- What the solver answers about loose pools. -/
inductive LooseOutcome
  | noTrade (reason : NoTradeReason) (optimalAmount projectedProfit : Scalar)
  | plan (plan : LoosePlan)

namespace LoosePlan

/-- A plan as a loose one. -/
def ofPlan (plan : Plan) : LoosePlan where
  source := .ofPool plan.source
  target := .ofPool plan.target
  optimalAmount := plan.optimalAmount
  executeAmount := plan.executeAmount
  firstOutput := plan.firstOutput
  secondOutput := plan.secondOutput
  profit := plan.profit

/-- The asset that the first swap gives. -/
def firstDenom (plan : LoosePlan) : Json := plan.source.denomOut .aToB

/-- The asset that the second swap gives. -/
def secondDenom (plan : LoosePlan) : Json := plan.target.denomOut .bToA

/-- Both swaps of a plan; the second is read once the first is good. -/
def swaps (plan : LoosePlan) (pair input intermediate : Json) (who : Trader) :
    Checked (Swap × Swap) :=
  let buy := Swap.draft plan.source.venue pair who.sender input plan.executeAmount.toJson who.senderSvm
  let sell := Swap.draft plan.target.venue pair who.sender intermediate plan.firstOutput.toJson
    who.senderSvm
  (Swap.reader buy).andThen fun buy => (Swap.reader sell).map fun sell => (buy, sell)

theorem swaps_ofPlan (plan : Plan) (pair input intermediate : Json) (who : Trader) :
    (ofPlan plan).swaps pair input intermediate who = plan.swaps pair input intermediate who := rfl

end LoosePlan

namespace LooseOutcome

/-- An outcome as a loose one. -/
def ofOutcome : Outcome → LooseOutcome
  | .noTrade answer => .noTrade answer.reason answer.optimalAmount answer.projectedProfit
  | .plan p => .plan (.ofPlan p)

end LooseOutcome

namespace LoosePool

/-- The outputs of both swaps of a round trip. -/
def roundTrip (source target : LoosePool) (x : Json) : Attempt (Scalar × Scalar) := do
  let first ← source.quote x .aToB
  let second ← target.quote first.toJson .bToA
  .ok (first, second)

/-- Rejects a loose pool that has nothing of one asset. -/
def requireReserves (p : LoosePool) : Attempt Unit :=
  if p.hasReserves then .ok ()
  else Loose.failAtVenue p.venue (.pool (.reservesNotPositive p.reserveA.piece p.reserveB.piece))

/-- The size to trade, corrected for fees, if one of the numbers is no integer. -/
def looseTradeSize (policy : LoosePolicy) (source target : LoosePool) : Attempt Scalar := do
  source.requireReserves
  target.requireReserves
  let raw ← maxProfitPointOf source.reserveA.toJson source.reserveB.toJson target.reserveA.toJson
    target.reserveB.toJson
  policy.apply raw.toJson source target

/-- The size to trade, corrected for fees; not positive when there is nothing to gain. -/
def optimalTradeSize (policy : LoosePolicy) (source target : LoosePool) : Attempt Scalar :=
  match policy.policy?, source.pool?, target.pool? with
  | some exact, some p, some q => do .ok (← CrossVenue.optimalTradeSize exact p q)
  | _, _, _ => looseTradeSize policy source target

end LoosePool

namespace Terms

/-- What is executed: the balance if it is below the best size. -/
def executed (t : Terms) (optimal : Scalar) : Attempt Scalar := do
  let balance ← t.balance.scalar
  .ok (if balance.isBelow optimal then balance else optimal)

/-- The profit asked for, and whether a gain exceeds it. -/
def exceeds (t : Terms) (gain : Scalar) : Attempt (Scalar × Bool) := do
  let least ← t.minProfit.scalar
  .ok (least, !gain.isAtMost least)

/-- Answers that nothing should be traded, once the reason is written. -/
def looseHold (reason : NoTradeReason) (optimal projected : Scalar) : Attempt LooseOutcome := do
  requireWritable reason.sentence
  .ok (.noTrade reason optimal projected)

/-- Sizes the round trip for what is executed, once the best size is known to be worth it. -/
def sizeForBalance (t : Terms) (source target : LoosePool) (optimal projected : Scalar) :
    Attempt LooseOutcome := do
  let execute ← t.executed optimal
  if execute.isAtMost 0 then looseHold .noBalance optimal projected
  else
    let (first, second) ← source.roundTrip target execute.toJson
    let realized ← second.difference execute
    let (least, worth) ← t.exceeds realized
    if worth then
      requireWritable (executedLine source.venue.inSentence target.venue.inSentence execute.piece
        first.piece second.piece realized.piece)
      .ok (.plan ⟨source, target, optimal, execute, first, second, realized⟩)
    else looseHold (.realizedTooLow realized.piece least.piece) optimal realized

/-- Sizes the round trip between two loose pools, if one of the numbers is no integer. -/
def looseSolve (t : Terms) (policy : LoosePolicy) (source target : LoosePool) :
    Attempt LooseOutcome := do
  let optimal ← source.optimalTradeSize policy target
  if optimal.isAtMost 0 then
    requireWritable (unprofitableLine source.venue.inSentence target.venue.inSentence optimal.piece)
    looseHold .noProfitableSize optimal 0
  else
    let (first, second) ← source.roundTrip target optimal.toJson
    let projected ← second.difference optimal
    requireWritable (estimateLine source.venue.inSentence target.venue.inSentence optimal.piece
      first.piece projected.piece)
    let (least, worth) ← t.exceeds projected
    if worth then t.sizeForBalance source target optimal projected
    else looseHold (.projectedTooLow projected.piece least.piece) optimal projected

/-- Sizes the round trip that buys asset B on the source and sells it on the target. -/
def solve (t : Terms) (policy : LoosePolicy) (source target : LoosePool) : Attempt LooseOutcome :=
  match t.balance, t.minProfit, policy.policy?, source.pool?, target.pool? with
  | .int balance, .int minProfit, some exact, some p, some q => do
    .ok (.ofOutcome (← CrossVenue.solve exact p q balance minProfit))
  | _, _, _, _, _ => t.looseSolve policy source target

theorem solve_exact {policy : LoosePolicy} {source target : LoosePool} {exact : Policy} {p q : Pool}
    (hx : policy.policy? = some exact) (hp : source.pool? = some p) (hq : target.pool? = some q)
    (balance minProfit : Int) :
    (Terms.mk (.int balance) (.int minProfit)).solve policy source target = (do
      .ok (.ofOutcome (← CrossVenue.solve exact p q balance minProfit))) := by
  simp only [solve, hx, hp, hq]

end Terms

end CrossVenue
