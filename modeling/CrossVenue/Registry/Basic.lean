import CrossVenue.Number.Word
import CrossVenue.Pool.Basic
import CrossVenue.Schema.Reader

/-!
# The venue registry

What is known of the mesh: its assets with their addresses on each plane, and for every venue its
programs, contracts and pools.  Ranges of quantities are part of the types.
-/

set_option autoImplicit false

namespace CrossVenue

open Schema (UpTo AtLeast)

/-- An asset and its addresses across planes. -/
structure Denom where
  symbol : Text
  svmMint : Option Text
  evmAddress : Option Text
  /-- How many units on the COSMOS and EVM planes make up one unit on the SVM plane. -/
  decimalFactor : AtLeast 1
deriving DecidableEq, Repr

/-- The accounts of a Raydium pool. -/
structure RaydiumPool where
  authority : Text
  ammConfig : Text
  poolState : Text
  token0Mint : Text
  token1Mint : Text
  token0Vault : Text
  token1Vault : Text
  observerState : Text
deriving DecidableEq, Repr

/-- The eight bytes that select a program's action. -/
abbrev Discriminator := { bs : Bytes // bs.length = 8 }

/-- The Raydium venue. -/
structure RaydiumConfig where
  name : Text
  programId : Text
  tokenProgramId : Text
  ataProgramId : Text
  systemProgramId : Text
  discriminator : Discriminator
  computeBudget : UpTo maxWord64
  feeRate : UpTo feeScale
  pools : Table RaydiumPool
deriving DecidableEq, Repr

/-- The Astroport venue. -/
structure AstroportConfig where
  name : Text
  feeRate : UpTo feeScale
  maxSpread : Text
  contracts : Table Text
deriving DecidableEq, Repr

/-- The greatest word of 24 bits. -/
def maxWord24 : Nat := 0xffffff

/-- The greatest word of 24 bits with a sign. -/
abbrev maxSigned24 : Int := 0x7fffff

/-- The least word of 24 bits with a sign. -/
abbrev minSigned24 : Int := -0x800000

/-- A word of 24 bits with a sign. -/
abbrev SignedWord24 := { n : Int // minSigned24 ≤ n ∧ n ≤ maxSigned24 }

/-- What identifies a Uniswap pool. -/
structure UniswapPoolKey where
  currency0 : Text
  currency1 : Text
  fee : UpTo maxWord24
  tickSpacing : SignedWord24
  hooks : Text
deriving DecidableEq, Repr

/-- The Uniswap venue. -/
structure UniswapConfig where
  name : Text
  router : Option Text
  selector : Text
  feeRate : UpTo feeScale
  pools : Table UniswapPoolKey
deriving DecidableEq, Repr

/-- Everything that is known of the mesh. -/
structure Registry where
  /-- The symbol of the asset that all pools are compared in. -/
  settlementDenom : Text
  pairs : List Text
  denoms : Table Denom
  raydium : RaydiumConfig
  astroport : AstroportConfig
  uniswap : UniswapConfig
deriving DecidableEq, Repr

/-- The text, unless it is absent or empty. -/
def nonEmpty? : Option Text → Option Text
  | some s => if s = "" then none else some s
  | none => none

theorem nonEmpty?_eq_some_iff {o : Option Text} {s : Text} :
    nonEmpty? o = some s ↔ o = some s ∧ s ≠ "" := by
  unfold nonEmpty?
  split
  · rename_i t
    split <;> simp_all
    rintro rfl
    assumption
  · simp

end CrossVenue
