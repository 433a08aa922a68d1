import CrossVenue.Arbitrage.Policy
import CrossVenue.Pool.Quote

/-!
# Arbitrage between two pools

Asset A buys asset B on the source, and all of that B buys A back on the target.  The best size has a
closed form when there are no fees; it is corrected for fees, capped by the balance, and traded only
if the round trip gains more than the least profit asked for.  Sizes and gains are written down as they
are found, and so is the reason why nothing is traded.

* `Plan.profit` : what the round trip gains;
* `NoTradeReason.text` : why nothing is traded.
-/

set_option autoImplicit false

namespace CrossVenue

/-- The size at which the fee-free round trip gains most. -/
def maxProfitPoint (a1 b1 a2 b2 : Int) : Except Rejection Int :=
  if b1 + b2 = 0 then reject (.pool .undefinedOptimum)
  else do
    let r1 ← squareRoot (← checkWord "a1*b1" (a1 * b1))
    let r2 ← squareRoot (← checkWord "a2*b2" (a2 * b2))
    let numerator ← checkWord "optimal point numerator" ((r1 : Int) * r2 - a1 * b2)
    .ok (numerator.tdiv (b1 + b2))

/-- The outputs of both swaps of a round trip. -/
def roundTrip (source target : Pool) (x : Int) : Except Rejection (Nat × Nat) := do
  let first ← source.quote x .aToB
  let second ← target.quote first .bToA
  .ok (first, second)

/-- Rejects a pool that has nothing of one asset. -/
def requireReserves (p : Pool) : Except Rejection Unit :=
  if p.hasReserves then .ok ()
  else rejectAt p.venue (.pool (.reservesNotPositive p.reserveA p.reserveB))

/-- The size to trade, corrected for fees; not positive when there is nothing to gain. -/
def optimalTradeSize (policy : Policy) (source target : Pool) : Attempt Int := do
  (requireReserves source : Except Rejection Unit)
  (requireReserves target : Except Rejection Unit)
  let raw ← (maxProfitPoint source.reserveA source.reserveB target.reserveA target.reserveB :
    Except Rejection Int)
  policy.apply raw source target

/-- A round trip that is worth trading. -/
structure Plan where
  source : Pool
  target : Pool
  optimalAmount : Int
  executeAmount : Int
  firstOutput : Nat
  secondOutput : Nat

namespace Plan

/-- What the round trip gains. -/
def profit (plan : Plan) : Int := plan.secondOutput - plan.executeAmount

/-- The asset that the first swap gives. -/
def firstDenom (plan : Plan) : Json := plan.source.denomOut .aToB

/-- The asset that the second swap gives. -/
def secondDenom (plan : Plan) : Json := plan.target.denomOut .bToA

end Plan

/-- Why a round trip is not traded. -/
inductive NoTradeReason
  | noProfitableSize
  | projectedTooLow (profit least : Piece)
  | noBalance
  | realizedTooLow (profit least : Piece)
deriving DecidableEq, Repr

/-- The reason in words. -/
def NoTradeReason.sentence : NoTradeReason → Sentence
  | noProfitableSize => ["no profitable trade size"]
  | projectedTooLow p least => ["projected profit ", p, " does not exceed minimum ", least]
  | noBalance => ["no balance available"]
  | realizedTooLow p least =>
    ["profit ", p, " at available balance does not exceed minimum ", least]

/-- The reason as a text. -/
def NoTradeReason.text (r : NoTradeReason) : Text := r.sentence.text

/-- The answer that nothing should be traded. -/
structure NoTrade where
  reason : NoTradeReason
  optimalAmount : Int
  projectedProfit : Int
deriving DecidableEq, Repr

/-- What the solver answers. -/
inductive Outcome
  | noTrade (answer : NoTrade)
  | plan (plan : Plan)

/-- The line that says that a size is not positive. -/
def unprofitableLine (source target : Sentence) (optimal : Piece) : Sentence :=
  .join ["No arbitrage ", source, " -> ", target, ": optimal size ", optimal]

/-- The line that says what the best size gives. -/
def estimateLine (source target : Sentence) (optimal first profit : Piece) : Sentence :=
  .join ["arbitrage from ", source, " => ", target, ", optimal x: ", optimal,
    ", estimate first swap output: ", first, ", estimate profit: ", profit]

/-- The line that says what is executed. -/
def executedLine (source target : Sentence) (execute first second profit : Piece) : Sentence :=
  .join ["Arbitrage ", source, " -> ", target, ": x=", execute, ", first output=", first,
    ", second output=", second, ", profit=", profit]

/-- Answers that nothing should be traded, once the reason is written. -/
def holdFor (reason : NoTradeReason) (optimal projected : Int) : Attempt Outcome := do
  requireWritable reason.sentence
  .ok (.noTrade ⟨reason, optimal, projected⟩)

/-- Sizes the round trip for what is executed, once the best size is known to be worth it. -/
def sizeForBalance (source target : Pool) (optimal projected balance minProfit : Int) :
    Attempt Outcome := do
  let execute := min optimal balance
  if execute ≤ 0 then holdFor .noBalance optimal projected
  else
    let (first, second) ← (roundTrip source target execute : Except Rejection (Nat × Nat))
    let realized : Int := second - execute
    if realized ≤ minProfit then holdFor (.realizedTooLow realized minProfit) optimal realized
    else
      requireWritable (executedLine [source.venue] [target.venue] execute first second realized)
      .ok (.plan
        { source := source
          target := target
          optimalAmount := optimal
          executeAmount := execute
          firstOutput := first
          secondOutput := second })

/-- Sizes the round trip that buys asset B on the source and sells it on the target. -/
def solve (policy : Policy) (source target : Pool) (balance minProfit : Int) :
    Attempt Outcome := do
  let optimal ← optimalTradeSize policy source target
  if optimal ≤ 0 then
    requireWritable (unprofitableLine [source.venue] [target.venue] optimal)
    holdFor .noProfitableSize optimal 0
  else
    let (first, second) ← (roundTrip source target optimal : Except Rejection (Nat × Nat))
    let projected : Int := second - optimal
    requireWritable (estimateLine [source.venue] [target.venue] optimal first projected)
    if projected ≤ minProfit then holdFor (.projectedTooLow projected minProfit) optimal projected
    else sizeForBalance source target optimal projected balance minProfit

end CrossVenue
