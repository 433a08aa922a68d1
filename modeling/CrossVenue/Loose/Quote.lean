import CrossVenue.Loose.Pool
import CrossVenue.Pool.Quote

/-!
# Quotes and trades of loose pools

The formulas of a pool, on numbers of any kind.

* `quote_exact`, `trade_exact` : a pool among loose pools quotes and trades integers as a pool.
-/

set_option autoImplicit false

namespace CrossVenue.LoosePool

open Loose

/-- The reserve of the asset that goes in. -/
def reserveIn (p : LoosePool) : Direction → Scalar
  | .aToB => p.reserveA
  | .bToA => p.reserveB

/-- The reserve of the asset that comes out. -/
def reserveOut (p : LoosePool) (d : Direction) : Scalar := p.reserveIn d.flip

/-- The asset that comes out. -/
def denomOut (p : LoosePool) : Direction → Json
  | .aToB => p.denomB
  | .bToA => p.denomA

/-- The part of an input that the pool can take. -/
def roundedInput (p : LoosePool) : Direction → Scalar → Attempt Scalar
  | .aToB, x => .ok x
  | .bToA, x => x.roundDown p.granularity

/-- The part of an output that the pool can give. -/
def roundedOutput (p : LoosePool) : Direction → Scalar → Attempt Scalar
  | .aToB, y => y.roundDown p.granularity
  | .bToA, y => .ok y

/-- The quotient of a curve, unless the pool is empty. -/
def curveOutput (p : LoosePool) (numerator denominator : Scalar) : Attempt Scalar :=
  if denominator.isEqual 0 then failAtVenue p.venue (.pool .emptyPool)
  else numerator.truncatedQuotient denominator

/-- The output when the fee is taken from it. -/
def outputFeeQuote (p : LoosePool) (d : Direction) (x kept : Scalar) : Attempt Scalar := do
  let taken ← p.roundedInput d x
  let offered ← (p.reserveOut d).product taken
  let numerator ← (← offered.product kept).checkWord "swap numerator"
  let held ← (p.reserveIn d).sum taken
  let denominator ← (← held.product feeScale).checkWord "swap denominator"
  p.curveOutput numerator denominator

/-- The output when the fee is taken from the input. -/
def inputFeeQuote (p : LoosePool) (d : Direction) (x kept : Scalar) : Attempt Scalar := do
  let scaled ← (← x.product kept).checkWord "fee-adjusted input"
  let taken ← p.roundedInput d (← scaled.truncatedQuotient feeScale)
  let numerator ← (← (p.reserveOut d).product taken).checkWord "swap numerator"
  let denominator ← (p.reserveIn d).sum taken
  p.curveOutput numerator denominator

/-- The output for an input of a size that is not negative, before it is rounded. -/
def rawQuote (p : LoosePool) (d : Direction) (x : Scalar) : Attempt Scalar := do
  let kept ← Scalar.difference feeScale p.feeRate
  if p.convention.isText FeeConvention.postFee.name then p.outputFeeQuote d x kept
  else if p.convention.isText FeeConvention.preFee.name then p.inputFeeQuote d x kept
  else failAtVenue p.venue (.pool (.unknownConvention p.convention.inSentence))

/-- The output for an input of any size, if one of the numbers is no integer. -/
def looseQuote (p : LoosePool) (x : Json) (d : Direction) : Attempt Scalar := do
  let size ← x.scalar
  if size.isBelow 0 then failAtVenue p.venue (.pool (.negativeTrade size.piece))
  else
    let size ← size.checkWord "trade size"
    let y ← p.rawQuote d size
    p.roundedOutput d y

/-- The output for an input of any size. -/
def quote (p : LoosePool) (x : Json) (d : Direction) : Attempt Scalar :=
  match p.pool?, x with
  | some q, .int n => do
    let y ← (q.quote n d : Except Rejection Nat)
    .ok y
  | _, x => p.looseQuote x d

/-- The pool after a trade of any size, if one of the numbers is no integer. -/
def looseTrade (p : LoosePool) (x : Json) (d : Direction) : Attempt LoosePool := do
  let y ← p.quote x d
  let size ← x.scalar
  match d with
  | .aToB => p.withReserves (← p.reserveA.sum size) (← p.reserveB.difference y)
  | .bToA => p.withReserves (← p.reserveA.difference y) (← p.reserveB.sum size)

/-- The pool after a trade of any size. -/
def trade (p : LoosePool) (x : Json) (d : Direction) : Attempt LoosePool :=
  match p.pool?, x with
  | some q, .int n => do
    let r ← (q.trade n d : Except Rejection Pool)
    .ok (ofPool r)
  | _, x => p.looseTrade x d

theorem quote_exact {p : LoosePool} {q : Pool} (h : p.pool? = some q) (n : Int) (d : Direction) :
    p.quote (.int n) d = (do
      let y ← (q.quote n d : Except Rejection Nat)
      .ok (y : Scalar)) := by
  simp only [quote, h]

theorem trade_exact {p : LoosePool} {q : Pool} (h : p.pool? = some q) (n : Int) (d : Direction) :
    p.trade (.int n) d = (do
      let r ← (q.trade n d : Except Rejection Pool)
      .ok (ofPool r)) := by
  simp only [trade, h]

end CrossVenue.LoosePool
