import CrossVenue.Arbitrage.Route
import CrossVenue.Arbitrage.Solver
import CrossVenue.Failure

/-!
# Markets

A market holds pools by name.  Trades and arbitrage replace pools by what they become; a step that
fails, or that finds nothing to trade, changes nothing.

* `totalA`, `totalB` : what all pools hold together.
-/

set_option autoImplicit false

namespace CrossVenue

/-- Pools by name. -/
structure Market where
  pools : Table Pool

namespace Market

/-- The pool of a name. -/
def pool (m : Market) (name : Text) : Attempt Pool :=
  match m.pools.lookup name with
  | some p => .ok p
  | none => breakDown .missingKey

/-- The market with a pool replaced. -/
def replace (m : Market) (name : Text) (p : Pool) : Market := ⟨m.pools.set name p⟩

/-- What all pools hold of asset A. -/
def totalA (m : Market) : Nat := m.pools.values.foldr (fun p total => p.reserveA + total) 0

/-- What all pools hold of asset B. -/
def totalB (m : Market) : Nat := m.pools.values.foldr (fun p total => p.reserveB + total) 0

/-- The pool after a trade, and the market that holds it. -/
def trade (m : Market) (name : Text) (x : Int) (d : Direction) : Attempt (Pool × Market) := do
  let p ← m.pool name
  let q ← (p.trade x d : Except Rejection Pool)
  .ok (q, m.replace name q)

/-- The pool with its assets exchanged, and the market that holds it. -/
def reverse (m : Market) (name : Text) : Attempt (Pool × Market) := do
  let p ← m.pool name
  let q ← (p.reversed : Except Rejection Pool)
  .ok (q, m.replace name q)

/-- The pools to buy and to sell on, among the named ones. -/
def route (m : Market) (names : List Text) : Attempt Route := do
  let pools ← names.mapM m.pool
  selectRoute pools

/-- Sizes a round trip between two named pools. -/
def solve (m : Market) (policy : Policy) (source target : Text) (balance minProfit : Int) :
    Attempt Outcome := do
  let p ← m.pool source
  let q ← m.pool target
  CrossVenue.solve policy p q balance minProfit

/-- Both pools of a plan after its swaps. -/
def settle (plan : Plan) : Except Rejection (Pool × Pool) := do
  let p ← plan.source.trade plan.executeAmount .aToB
  let q ← plan.target.trade plan.firstOutput .bToA
  .ok (p, q)

/-- The market after the outcome of a round trip. -/
def apply (m : Market) (source target : Text) : Outcome → Except Rejection Market
  | .noTrade _ => .ok m
  | .plan plan => do
    let (p, q) ← settle plan
    .ok ((m.replace source p).replace target q)

/-- Sizes a round trip between two named pools and trades it if it is worth it. -/
def execute (m : Market) (policy : Policy) (source target : Text) (balance minProfit : Int) :
    Attempt (Outcome × Market) := do
  let outcome ← m.solve policy source target balance minProfit
  let after ← (m.apply source target outcome : Except Rejection Market)
  .ok (outcome, after)

end Market

end CrossVenue
