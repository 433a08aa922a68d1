import CrossVenue.Message.PlaneInstruction
import CrossVenue.Message.Swap
import CrossVenue.Pool.Basic
import CrossVenue.Registry.Lookup
import CrossVenue.Text.Casing
import CrossVenue.Venue.Amount
import CrossVenue.Venue.Calldata

/-!
# Uniswap

Pools on the EVM plane, quoted as constant product pools that take their fee from the input.  A swap
is a call of the router with an exact input and a price limit just inside the bounds of ticks.
-/

set_option autoImplicit false

namespace CrossVenue.Uniswap

/-- The least square root of a price that a tick has. -/
def minSqrtPrice : Nat := 4295128739

/-- The square root of a price above all ticks. -/
def maxSqrtPrice : Nat := 1461446703485210103287273052203988822378723970342

/-- The pool of a pair with reserves that are already in order. -/
def poolOfReserves (r : Registry) (pair : Text) (a b : Int) : Except Rejection Pool := do
  let other ← r.pairOutputDenom r.settlementDenom pair
  Listing.toPool
    { venue := r.uniswap.name
      plane := Plane.evm.name
      reserveA := a
      reserveB := b
      feeRate := r.uniswap.feeRate.val
      convention := .preFee
      denomA := .str r.settlementDenom
      denomB := .str other
      granularity := 1 }

/-- Is the first currency sold when a token goes in?  None if the token is no currency of the pool. -/
def zeroForOne? (key : UniswapPoolKey) (token : Text) : Option Bool :=
  if Text.lower token = Text.lower key.currency0 then some true
  else if Text.lower token = Text.lower key.currency1 then some false
  else none

/-- The limit on the side to which the price moves. -/
def priceLimit (zeroForOne : Bool) : Nat :=
  if zeroForOne then minSqrtPrice + 1 else maxSqrtPrice - 1

/-- The payload of a call of the router. -/
def swapPayload (swap : Swap) (router calldata : Bytes) (amount : Nat) : Json :=
  .obj [
    ("sender", .str swap.sender),
    ("contract_address", .str (Base64.encode router)),
    ("calldata", .str (Base64.encode calldata)),
    ("input_amount", .str (Base64.encode (Bytes.ofBigEndian 32 amount)))]

/-- What a swap needs to know before it is encoded. -/
structure Prepared where
  router : Text
  key : UniswapPoolKey
  amount : Nat
  zeroForOne : Bool
deriving DecidableEq, Repr

/-- The pool, amount and direction of a swap request. -/
def prepare (r : Registry) (swap : Swap) : Except Rejection Prepared :=
  match nonEmpty? r.uniswap.router with
  | none => rejectAt r.uniswap.name (.venue .noRouter)
  | some router => do
    let key ← r.uniswapPool swap.pair
    let amount ← checkAmount r.uniswap.name "swap amount" swap.amount maxWord
    let token ← r.evmAddress swap.denom
    match zeroForOne? key token with
    | none => rejectAt r.uniswap.name (.pair (.notCurrency swap.denom swap.pair))
    | some zeroForOne => .ok ⟨router, key, amount, zeroForOne⟩

/-- The instruction that executes a swap. -/
def composeSwap (room : Room) (r : Registry) (swap : Swap) : Attempt (List PlaneInstruction) := do
  let p ← (prepare r swap : Except Rejection Prepared)
  let calldata ← swapCalldata p.key p.zeroForOne (-(p.amount : Int)) (priceLimit p.zeroForOne)
    r.uniswap.selector []
  let router ← evmAddressBytes p.router
  let instruction ← PlaneInstruction.ofPayload room .evm PlaneInstruction.invokeMachine
    (swapPayload swap router calldata p.amount)
  .ok [instruction]

end CrossVenue.Uniswap
