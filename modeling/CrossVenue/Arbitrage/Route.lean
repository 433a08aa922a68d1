import CrossVenue.Pool.Basic

/-!
# Choosing where to buy and where to sell

Asset B is bought where its rate is lowest and sold where it is highest; the earliest pool wins a tie.
Pools are told apart by their position.  A pool that is listed twice has one rate, so the chosen
positions hold one and the same pool only if they are equal.

* `selectRoute_eq_error_of_short` : a single pool is no market.
-/

set_option autoImplicit false

namespace CrossVenue

/-- A pool with its position and rate. -/
structure Rated where
  position : Nat
  pool : Pool
  rate : Int

/-- The rates of pools, counted from a position. -/
def ratedFrom : Nat → List Pool → Except Rejection (List Rated)
  | _, [] => .ok []
  | n, p :: ps => do
    let rate ← p.spotRate Pool.rateMultiplier
    let rest ← ratedFrom (n + 1) ps
    .ok (⟨n, p, rate⟩ :: rest)

/-- The first pool with the lowest rate. -/
def cheapest (first : Rated) (rest : List Rated) : Rated :=
  rest.foldl (fun best r => if r.rate < best.rate then r else best) first

/-- The first pool with the highest rate. -/
def dearest (first : Rated) (rest : List Rated) : Rated :=
  rest.foldl (fun best r => if best.rate < r.rate then r else best) first

/-- Where to buy and where to sell. -/
structure Route where
  source : Rated
  target : Rated

/-- Do buying and selling meet in one pool? -/
def Route.isTrivial (r : Route) : Bool := r.source.position == r.target.position

/-- The pools to buy and to sell on. -/
def selectRoute (pools : List Pool) : Except Rejection Route :=
  if pools.length < 2 then reject (.pool (.tooFewPools pools.length))
  else do
    match ← ratedFrom 0 pools with
    | [] => reject (.pool (.tooFewPools 0))
    | first :: rest => .ok ⟨cheapest first rest, dearest first rest⟩

theorem selectRoute_eq_error_of_short {pools : List Pool} (h : pools.length < 2) :
    selectRoute pools = .error ⟨.pool (.tooFewPools pools.length), ""⟩ := by
  simp [selectRoute, h, reject]

end CrossVenue
