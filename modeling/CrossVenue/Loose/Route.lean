import CrossVenue.Arbitrage.Route
import CrossVenue.Loose.Pool

/-!
# Routes between loose pools

The cheapest and the dearest of some loose pools.  A rate that does not compare is chosen only if it comes
first.

* `selectRoute_exact` : among pools it is the route of the pools.
-/

set_option autoImplicit false

namespace CrossVenue

/-- A loose pool with its position and rate. -/
structure LooseRated where
  position : Nat
  pool : LoosePool
  rate : Scalar

/-- Where to buy and where to sell. -/
structure LooseRoute where
  source : LooseRated
  target : LooseRated

namespace LooseRoute

/-- A rated pool as a loose one. -/
def ofRated (r : Rated) : LooseRated := ⟨r.position, .ofPool r.pool, r.rate⟩

/-- A route as a loose one. -/
def ofRoute (r : Route) : LooseRoute := ⟨ofRated r.source, ofRated r.target⟩

/-- Do buying and selling meet in one pool? -/
def isTrivial (r : LooseRoute) : Bool := r.source.position == r.target.position

end LooseRoute

namespace LoosePool

/-- The pools that loose pools are, if they all are. -/
def pools? (pools : List LoosePool) : Option (List Pool) := pools.mapM pool?

/-- The rates of loose pools, counted from a position. -/
def ratedFrom : Nat → List LoosePool → Attempt (List LooseRated)
  | _, [] => .ok []
  | n, p :: ps => do
    let rate ← p.spotRate (.int Pool.rateMultiplier)
    let rest ← ratedFrom (n + 1) ps
    .ok (⟨n, p, rate⟩ :: rest)

/-- The first loose pool with the lowest rate. -/
def cheapest (first : LooseRated) (rest : List LooseRated) : LooseRated :=
  rest.foldl (fun best r => if r.rate.isBelow best.rate then r else best) first

/-- The first loose pool with the highest rate. -/
def dearest (first : LooseRated) (rest : List LooseRated) : LooseRated :=
  rest.foldl (fun best r => if r.rate.isAbove best.rate then r else best) first

/-- The loose pools to buy and to sell on, if one of the numbers is no integer. -/
def looseRoute (pools : List LoosePool) : Attempt LooseRoute :=
  if pools.length < 2 then failWith (.pool (.tooFewPools pools.length))
  else do
    match ← ratedFrom 0 pools with
    | [] => failWith (.pool (.tooFewPools 0))
    | first :: rest => .ok ⟨cheapest first rest, dearest first rest⟩

/-- The loose pools to buy and to sell on. -/
def selectRoute (pools : List LoosePool) : Attempt LooseRoute :=
  match pools? pools with
  | some exact => do
    let route ← (CrossVenue.selectRoute exact : Except Rejection Route)
    .ok (.ofRoute route)
  | none => looseRoute pools

theorem selectRoute_exact {pools : List LoosePool} {exact : List Pool}
    (h : pools? pools = some exact) :
    selectRoute pools = (do
      let route ← (CrossVenue.selectRoute exact : Except Rejection Route)
      .ok (.ofRoute route)) := by
  simp only [selectRoute, h]

end LoosePool

end CrossVenue
