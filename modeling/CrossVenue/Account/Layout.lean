import CrossVenue.Address.Pubkey

/-!
# Layouts of account data

The leading fields of a token account, and the counters of accrued fees in the state of a Raydium
pool, at their fixed offsets.

* `FeeCounters.swapped_swapped` : exchanging the tokens twice changes nothing.
-/

set_option autoImplicit false

namespace CrossVenue

/-- The leading fields of a token account. -/
structure TokenAccount where
  mint : Pubkey
  owner : Pubkey
  amount : Nat
deriving DecidableEq, Repr

namespace TokenAccount

/-- How many bytes the leading fields take. -/
def minSize : Nat := 72

/-- The token account that the data hold. -/
def ofBytes (data : Bytes) : Except Rejection TokenAccount :=
  if h : data.length < minSize then
    reject (.state (.tokenAccountSize minSize data.length))
  else
    .ok {
      mint := ⟨Bytes.slice data 0 32, by simp [Bytes.slice, minSize] at *; omega⟩
      owner := ⟨Bytes.slice data 32 32, by simp [Bytes.slice, minSize] at *; omega⟩
      amount := Bytes.littleEndian (Bytes.slice data 64 8) }

end TokenAccount

/-- Fees that have accrued in the vaults of a pool but belong to its owner. -/
structure FeeCounters where
  protocolFees0 : Nat
  protocolFees1 : Nat
  fundFees0 : Nat
  fundFees1 : Nat
deriving DecidableEq, Repr

namespace FeeCounters

/-- How many bytes the state of a pool takes: a discriminator, ten keys, five single bytes, six words
of 64 bits and thirty-two words of padding. -/
def stateSize : Nat := 8 + 10 * 32 + 1 * 5 + 8 * 6 + 8 * 32

/-- Where the first counter stands: after the discriminator, the keys, the single bytes and one word. -/
def offset : Nat := 8 + 10 * 32 + 1 * 5 + 8

/-- The counters that the state of a pool holds. -/
def ofBytes (data : Bytes) : Except Rejection FeeCounters :=
  if data.length ≠ stateSize then reject (.state (.poolStateSize stateSize data.length))
  else
    .ok {
      protocolFees0 := Bytes.littleEndian (Bytes.slice data offset 8)
      protocolFees1 := Bytes.littleEndian (Bytes.slice data (offset + 8) 8)
      fundFees0 := Bytes.littleEndian (Bytes.slice data (offset + 16) 8)
      fundFees1 := Bytes.littleEndian (Bytes.slice data (offset + 24) 8) }

/-- The counters with the tokens exchanged. -/
def swapped (c : FeeCounters) : FeeCounters :=
  ⟨c.protocolFees1, c.protocolFees0, c.fundFees1, c.fundFees0⟩

theorem swapped_swapped (c : FeeCounters) : c.swapped.swapped = c := rfl

/-- All fees of the first token. -/
def total0 (c : FeeCounters) : Nat := c.protocolFees0 + c.fundFees0

/-- All fees of the second token. -/
def total1 (c : FeeCounters) : Nat := c.protocolFees1 + c.fundFees1

end FeeCounters

end CrossVenue
