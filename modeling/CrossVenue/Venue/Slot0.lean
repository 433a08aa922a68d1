import CrossVenue.Bytes
import CrossVenue.Rejection

/-!
# The packed word of a Uniswap pool

Thirty-two bytes: three unused, the fee of the liquidity providers and of the protocol in three bytes
each, the tick in three bytes with a sign, and the square root of the price in twenty bytes.

* `Slot0.toBytes` : the word of four fields, after three bytes of any content.
-/

set_option autoImplicit false

namespace CrossVenue

/-- The fields of the packed word. -/
structure Slot0 where
  sqrtPrice : Nat
  tick : Int
  protocolFee : Nat
  lpFee : Nat
deriving DecidableEq, Repr

namespace Slot0

/-- The fields of a word of thirty-two bytes. -/
def ofBytes (word : Bytes) : Except Rejection Slot0 :=
  if word.length ≠ 32 then rejectAt "uniswap" (.state (.slot0Size word.length))
  else
    .ok {
      sqrtPrice := Bytes.bigEndian (Bytes.slice word 12 20)
      tick := Bytes.signed 24 (Bytes.bigEndian (Bytes.slice word 9 3))
      protocolFee := Bytes.bigEndian (Bytes.slice word 6 3)
      lpFee := Bytes.bigEndian (Bytes.slice word 3 3) }

/-- The word of four fields, after the given leading bytes. -/
def toBytes (leading : Bytes) (s : Slot0) : Bytes :=
  leading ++ Bytes.ofBigEndian 3 s.lpFee ++ Bytes.ofBigEndian 3 s.protocolFee ++
    Bytes.ofBigEndian 3 (s.tick % 0x1000000).toNat ++ Bytes.ofBigEndian 20 s.sqrtPrice

end Slot0

end CrossVenue
