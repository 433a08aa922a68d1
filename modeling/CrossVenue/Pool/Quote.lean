import CrossVenue.Pool.Basic

/-!
# Quotes and trades

A quote is the output of the curve `x * y = k` for an input, less the fee; it is always rounded down.
The fee is taken from the input or from the output, as the pool's convention says.  A trade credits
the whole input, fee included, and debits the quote.

* `roundDown_le`, `roundDown_one`, `roundDown_div` : rounding to a multiple;
* `quote_eq_error_of_neg` : a negative size is rejected before anything else.
-/

set_option autoImplicit false

namespace CrossVenue

/-- The greatest multiple of the granularity that is not above the amount. -/
def roundDown (amount granularity : Nat) : Nat := amount / granularity * granularity

theorem roundDown_le (amount granularity : Nat) : roundDown amount granularity ≤ amount :=
  Nat.div_mul_le_self amount granularity

theorem roundDown_one (amount : Nat) : roundDown amount 1 = amount := by
  simp [roundDown]

/-- Rounding down keeps the number of whole steps. -/
theorem roundDown_div (amount : Nat) {granularity : Nat} (h : 0 < granularity) :
    roundDown amount granularity / granularity = amount / granularity := Nat.mul_div_cancel _ h

namespace Pool

/-- The part of an input that the pool can take. -/
def roundedInput (p : Pool) : Direction → Nat → Nat
  | .aToB, x => x
  | .bToA, x => roundDown x p.granularity

/-- The part of an output that the pool can give. -/
def roundedOutput (p : Pool) : Direction → Nat → Nat
  | .aToB, y => roundDown y p.granularity
  | .bToA, y => y

/-- The quotient of a curve, unless the pool is empty. -/
def curveOutput (p : Pool) (numerator denominator : Nat) : Except Rejection Nat :=
  if denominator = 0 then rejectAt p.venue (.pool .emptyPool) else .ok (numerator / denominator)

/-- The output when the fee is taken from it. -/
def outputFeeQuote (p : Pool) (d : Direction) (x : Nat) : Except Rejection Nat := do
  let taken := p.roundedInput d x
  let numerator ← checkNatural "swap numerator" (p.reserveOut d * taken * p.keptRate)
  let denominator ← checkNatural "swap denominator" ((p.reserveIn d + taken) * feeScale)
  p.curveOutput numerator denominator

/-- The output when the fee is taken from the input. -/
def inputFeeQuote (p : Pool) (d : Direction) (x : Nat) : Except Rejection Nat := do
  let kept ← checkNatural "fee-adjusted input" (x * p.keptRate)
  let taken := p.roundedInput d (kept / feeScale)
  let numerator ← checkNatural "swap numerator" (p.reserveOut d * taken)
  p.curveOutput numerator (p.reserveIn d + taken)

/-- The output for an input of a size that is not negative, before it is rounded. -/
def rawQuote (p : Pool) (d : Direction) (x : Nat) : Except Rejection Nat :=
  match p.convention with
  | .postFee => p.outputFeeQuote d x
  | .preFee => p.inputFeeQuote d x
  | .other name => rejectAt p.venue (.pool (.unknownConvention [name]))

/-- The output for an input of size `x`. -/
def quote (p : Pool) (x : Int) (d : Direction) : Except Rejection Nat :=
  if x < 0 then rejectAt p.venue (.pool (.negativeTrade x))
  else do
    let size ← checkNatural "trade size" x.toNat
    let y ← p.rawQuote d size
    .ok (p.roundedOutput d y)

/-- The pool after a trade of size `x`. -/
def trade (p : Pool) (x : Int) (d : Direction) : Except Rejection Pool := do
  let y ← p.quote x d
  match d with
  | .aToB => p.withReserves (p.reserveA + x) (p.reserveB - y)
  | .bToA => p.withReserves (p.reserveA - y) (p.reserveB + x)

theorem quote_eq_error_of_neg {p : Pool} {x : Int} (d : Direction) (h : x < 0) :
    p.quote x d = .error ⟨.pool (.negativeTrade x), p.venue⟩ := by
  simp [quote, h, rejectAt]

/-- The pool after a run of trades, where a trade that is rejected changes nothing. -/
def run (p : Pool) (trades : List (Int × Direction)) : Pool :=
  trades.foldl (fun q t => match q.trade t.1 t.2 with
    | .ok r => r
    | .error _ => q) p

end Pool

end CrossVenue
