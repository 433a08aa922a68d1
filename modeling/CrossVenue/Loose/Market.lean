import CrossVenue.Loose.Route
import CrossVenue.Loose.Solver
import CrossVenue.Market

/-!
# Markets of loose pools

* `execute_exact` : what a market of pools executes is the market's.
-/

set_option autoImplicit false

namespace CrossVenue

/-- Loose pools by name. -/
structure LooseMarket where
  pools : Table LoosePool

namespace LooseMarket

/-- A market as a loose one. -/
def ofMarket (m : Market) : LooseMarket := ⟨m.pools.map fun p => (p.1, .ofPool p.2)⟩

/-- The market that a loose market is, if all its pools are pools. -/
def market? (m : LooseMarket) : Option Market := do
  let pools ← m.pools.mapM fun p => p.2.pool?.map fun q => (p.1, q)
  some ⟨pools⟩

/-- The loose pool of a name. -/
def pool (m : LooseMarket) (name : Text) : Attempt LoosePool :=
  match m.pools.lookup name with
  | some p => .ok p
  | none => breakDown .missingKey

/-- The market with a loose pool replaced. -/
def replace (m : LooseMarket) (name : Text) (p : LoosePool) : LooseMarket :=
  ⟨m.pools.set name p⟩

/-- The loose pool after a trade, and the market that holds it. -/
def trade (m : LooseMarket) (name : Text) (x : Json) (d : Direction) :
    Attempt (LoosePool × LooseMarket) :=
  match m.market?, x with
  | some exact, .int n => do
    let (p, after) ← exact.trade name n d
    .ok (.ofPool p, ofMarket after)
  | _, x => do
    let p ← m.pool name
    let q ← p.trade x d
    .ok (q, m.replace name q)

/-- The loose pool with its assets exchanged, and the market that holds it. -/
def reverse (m : LooseMarket) (name : Text) : Attempt (LoosePool × LooseMarket) :=
  match m.market? with
  | some exact => do
    let (p, after) ← exact.reverse name
    .ok (.ofPool p, ofMarket after)
  | none => do
    let p ← m.pool name
    let q ← p.reversed
    .ok (q, m.replace name q)

/-- The loose pools to buy and to sell on, among the named ones. -/
def route (m : LooseMarket) (names : List Text) : Attempt LooseRoute :=
  match m.market? with
  | some exact => do .ok (.ofRoute (← exact.route names))
  | none => do
    let pools ← names.mapM m.pool
    LoosePool.selectRoute pools

/-- Sizes a round trip between two named pools. -/
def solve (m : LooseMarket) (policy : LoosePolicy) (source target : Text) (terms : Terms) :
    Attempt LooseOutcome :=
  match m.market?, policy.policy?, terms with
  | some exact, some p, ⟨.int balance, .int minProfit⟩ => do
    .ok (.ofOutcome (← exact.solve p source target balance minProfit))
  | _, _, terms => do
    let p ← m.pool source
    let q ← m.pool target
    terms.solve policy p q

/-- The market after the outcome of a round trip. -/
def apply (m : LooseMarket) (source target : Text) : LooseOutcome → Attempt LooseMarket
  | .noTrade .. => .ok m
  | .plan plan => do
    let p ← plan.source.trade plan.executeAmount.toJson .aToB
    let q ← plan.target.trade plan.firstOutput.toJson .bToA
    .ok ((m.replace source p).replace target q)

/-- Sizes a round trip between two named pools and trades it if it is worth it. -/
def execute (m : LooseMarket) (policy : LoosePolicy) (source target : Text) (terms : Terms) :
    Attempt (LooseOutcome × LooseMarket) :=
  match m.market?, policy.policy?, terms with
  | some exact, some p, ⟨.int balance, .int minProfit⟩ => do
    let (outcome, after) ← exact.execute p source target balance minProfit
    .ok (.ofOutcome outcome, ofMarket after)
  | _, _, terms => do
    let outcome ← m.solve policy source target terms
    let after ← m.apply source target outcome
    .ok (outcome, after)

theorem execute_exact {m : LooseMarket} {policy : LoosePolicy} {exact : Market} {p : Policy}
    (hm : m.market? = some exact) (hp : policy.policy? = some p) (source target : Text)
    (balance minProfit : Int) :
    m.execute policy source target ⟨.int balance, .int minProfit⟩ = (do
      let (outcome, after) ← exact.execute p source target balance minProfit
      .ok (.ofOutcome outcome, ofMarket after)) := by
  simp only [execute, hm, hp]

end LooseMarket

end CrossVenue
