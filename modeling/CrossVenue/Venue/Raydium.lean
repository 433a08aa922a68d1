import CrossVenue.Account.Layout
import CrossVenue.Account.Record
import CrossVenue.Address.Derived
import CrossVenue.Message.PlaneInstruction
import CrossVenue.Message.Swap
import CrossVenue.Registry.Lookup
import CrossVenue.Transaction.Builder
import CrossVenue.Transaction.Wire
import CrossVenue.Venue.Amount

/-!
# Raydium

Pools on the SVM plane, which take their fee from the input.  A pool is quoted from its two vaults and
its state; fees that have accrued sit in the vaults but are no reserves.  A swap is a transaction of two
instructions: create the account of the output, then swap.
-/

set_option autoImplicit false

namespace CrossVenue.Raydium

/-- The tag that creates a token account unless it exists. -/
def createIdempotent : UInt8 := 1

/-- A vault's mint and what of its balance is a reserve. -/
structure Side where
  mint : Text
  reserve : Int
deriving DecidableEq, Repr

/-- The two sides of a pool's accounts, in the order of its tokens. -/
def sides (vault0 vault1 : TokenAccount) (fees : FeeCounters) : Side × Side :=
  (⟨vault0.mint.toText, vault0.amount - fees.total0⟩,
    ⟨vault1.mint.toText, vault1.amount - fees.total1⟩)

/-- The pool of two sides, the first of which is the settlement asset. -/
def poolOfSides (r : Registry) (a b : Side) : Except Rejection Pool :=
  if a.reserve < 0 ∨ b.reserve < 0 then
    rejectAt r.raydium.name (.state (.feesExceedVaults a.reserve b.reserve))
  else
    let factor := r.decimalFactor b.mint
    Listing.toPool
      { venue := r.raydium.name
        plane := Plane.svm.name
        reserveA := a.reserve
        reserveB := b.reserve * factor
        feeRate := r.raydium.feeRate.val
        convention := .preFee
        denomA := .str a.mint
        denomB := .str b.mint
        granularity := factor }

/-- What the log says of a pool that was quoted. -/
def parsedLine (p : Pool) : Sentence :=
  .join ["Parsed raydium pool: PoolSnapshot(dex_name=", Text.quoted p.venue, ", venue_plane=",
    Text.quoted p.plane, ", reserve_a=", (p.reserveA : Piece), ", reserve_b=", (p.reserveB : Piece),
    ", fee_rate=", (p.feeRate : Piece), ", fee_convention=<FeeConvention.PRE_FEE: ",
    Text.quoted p.convention.name, ">, denom_a=", p.denomA.shown, ", denom_b=", p.denomB.shown,
    ", b_granularity=", (p.granularity : Piece), ")"]

/-- The pool of two sides, of which the log is told. -/
def parsePool (r : Registry) (a b : Side) : Attempt Pool := do
  let pool ← (poolOfSides r a b : Except Rejection Pool)
  requireWritable (parsedLine pool)
  .ok pool

/-- The two sides in the data of a pool's vaults and its state. -/
def sidesOfAccounts (vault0 vault1 state : Bytes) : Except Rejection (Side × Side) := do
  let token0 ← TokenAccount.ofBytes vault0
  let token1 ← TokenAccount.ofBytes vault1
  let fees ← FeeCounters.ofBytes state
  .ok (sides token0 token1 fees)

/-- The pool of the data of its vaults and its state. -/
def poolOfAccounts (r : Registry) (vault0 vault1 state : Bytes) : Attempt Pool := do
  let (first, second) ← (sidesOfAccounts vault0 vault1 state : Except Rejection (Side × Side))
  if first.mint = r.svmMint r.settlementDenom then parsePool r first second
  else parsePool r second first

/-- The records of two vaults and a state, if there are three of them. -/
def threeRecords (r : Registry) : Json → Attempt (Json × Json × Json)
  | .arr (v0 :: v1 :: s :: _) => .ok (v0, v1, s)
  | .arr items => failAt r.raydium.name (.state (.tooFewRecords items.length))
  | .str s =>
    match s.toList with
    | a :: b :: c :: _ =>
      .ok (.str ⟨[a]⟩, .str ⟨[b]⟩, .str ⟨[c]⟩)
    | cs => failAt r.raydium.name (.state (.tooFewRecords cs.length))
  | .obj fields =>
    if fields.length < 3 then failAt r.raydium.name (.state (.tooFewRecords fields.length))
    else breakDown .wrongKind
  | _ => breakDown .wrongKind

/-- The pool of account records. -/
def poolOfRecords (room : Room) (r : Registry) (records : Json) : Attempt Pool := do
  let (v0, v1, s) ← threeRecords r records
  let vault0 ← AccountRecord.ofJson room v0
  let vault1 ← AccountRecord.ofJson room v1
  let state ← AccountRecord.ofJson room s
  poolOfAccounts r vault0.data vault1.data state.data

/-- The mints and vaults of a swap by direction. -/
structure Sided where
  inputMint : Text
  outputMint : Text
  inputVault : Text
  outputVault : Text
deriving DecidableEq, Repr

/-- The mints and vaults when a mint goes into a pool. -/
def sided? (pool : RaydiumPool) (inputMint : Text) : Option Sided :=
  if inputMint = pool.token0Mint then
    some ⟨inputMint, pool.token1Mint, pool.token0Vault, pool.token1Vault⟩
  else if inputMint = pool.token1Mint then
    some ⟨inputMint, pool.token0Mint, pool.token1Vault, pool.token0Vault⟩
  else none

/-- An account that is only read. -/
def readOnly (address : Text) : AccountMeta Text Bool := ⟨address, false, false⟩

/-- An account that is written. -/
def writable (address : Text) : AccountMeta Text Bool := ⟨address, false, true⟩

/-- An account that signs and is written. -/
def signing (address : Text) : AccountMeta Text Bool := ⟨address, true, true⟩

/-- Creates the token account of the output. -/
def createAccount (c : RaydiumConfig) (payer account mint : Text) : Instruction Text Bool :=
  { programId := c.ataProgramId
    accounts := [signing payer, writable account, readOnly payer, readOnly mint,
      readOnly c.systemProgramId, readOnly c.tokenProgramId]
    data := [createIdempotent] }

/-- The data of a swap: what to do, how much goes in and how much has to come out. -/
def swapData (c : RaydiumConfig) (amountIn minAmountOut : Nat) : Bytes :=
  c.discriminator.val ++ Bytes.ofLittleEndian 8 amountIn ++ Bytes.ofLittleEndian 8 minAmountOut

/-- Swaps on a pool. -/
def swapBaseInput (c : RaydiumConfig) (pool : RaydiumPool) (payer inputAccount outputAccount : Text)
    (side : Sided) (data : Bytes) : Instruction Text Bool :=
  { programId := c.programId
    accounts := [signing payer, readOnly pool.authority, readOnly pool.ammConfig,
      writable pool.poolState, writable inputAccount, writable outputAccount,
      writable side.inputVault, writable side.outputVault, readOnly c.tokenProgramId,
      readOnly c.tokenProgramId, readOnly side.inputMint, readOnly side.outputMint,
      writable pool.observerState]
    data := data }

/-- The token account of a sender for a mint. -/
def tokenAccountOf (c : RaydiumConfig) (sender : Pubkey) (mint : Text) :
    Except Rejection Pubkey :=
  associatedTokenAddress (.key sender) (.value (.str mint)) (.value (.str c.tokenProgramId))
    (.value (.str c.ataProgramId))

/-- The two instructions of a swap, in units of the SVM plane. -/
def swapInstructions (r : Registry) (sender : Pubkey) (pool : RaydiumPool) (inputMint : Text)
    (amountIn minAmountOut : Int) : Except Rejection (List (Instruction Text Bool)) := do
  let c := r.raydium
  let amountIn ← checkAmount c.name "amount in" amountIn maxWord64
  let minAmountOut ← checkAmount c.name "minimum amount out" minAmountOut maxWord64
  match sided? pool inputMint with
  | none => rejectAt c.name (.pair (.mintNotTraded [inputMint] pool.poolState))
  | some side =>
    let inputAccount ← tokenAccountOf c sender side.inputMint
    let outputAccount ← tokenAccountOf c sender side.outputMint
    let payer := sender.toText
    .ok [
      createAccount c payer outputAccount.toText side.outputMint,
      swapBaseInput c pool payer inputAccount.toText outputAccount.toText side
        (swapData c amountIn minAmountOut)]

/-- The two instructions of a swap whose mint and amounts may be any values; nothing but a text is a
mint.  Numbers that are no integers are found out last, when the data is written. -/
def instructionsOfValues (r : Registry) (sender : Pubkey) (pool : RaydiumPool)
    (inputMint amountIn minAmountOut : Json) : Attempt (List (Instruction Text Bool)) := do
  let amountIn ← checkAmountOf r.raydium.name "amount in" amountIn maxWord64
  let minAmountOut ← checkAmountOf r.raydium.name "minimum amount out" minAmountOut maxWord64
  match inputMint with
  | .str mint =>
    let instructions ← (swapInstructions r sender pool mint (amountIn.integer?.getD 0)
      (minAmountOut.integer?.getD 0) : Except Rejection (List (Instruction Text Bool)))
    if amountIn.integer?.isSome && minAmountOut.integer?.isSome then .ok instructions
    else breakDown .notWhole
  | v => failAt r.raydium.name (.pair (.mintNotTraded v.inSentence pool.poolState))

/-- The greatest amount that a swap may ask for. -/
def maxSwapAmount : Nat := 0x7fffffffffffffffffffffffffffffff

/-- The instructions of a swap request. -/
def requestInstructions (r : Registry) (swap : Swap) :
    Except Rejection (List (Instruction Text Bool)) :=
  match nonEmpty? swap.senderSvm with
  | none => rejectAt r.raydium.name (.address .missingSvmAccount)
  | some account => do
    let sender ← Pubkey.ofText account
    let pool ← r.raydiumPool swap.pair
    let inputMint := r.svmMint swap.denom
    let amount ← checkAmount r.raydium.name "swap amount" swap.amount maxSwapAmount
    swapInstructions r sender pool inputMint ((amount / r.decimalFactor inputMint : Nat) : Int) 0

/-- The transaction of a swap request, signed by its sender. -/
def swapTransaction (r : Registry) (budget : Json) (swap : Swap) : Attempt Transaction := do
  let ixs ← (requestInstructions r swap : Except Rejection (List (Instruction Text Bool)))
  buildTransaction (ixs.map (Instruction.map Json.str Json.bool)) (Json.strings [swap.sender]) budget

/-- The budget of transactions: the one given, or the registry's if that is null. -/
def budgetOr (r : Registry) (given : Json) : Json :=
  match given with
  | .null => .int r.raydium.computeBudget.val
  | v => v

/-- The instruction that executes a swap. -/
def composeSwap (room : Room) (r : Registry) (budget : Json) (swap : Swap) :
    Attempt (List PlaneInstruction) := do
  let tx ← swapTransaction r (budgetOr r budget) swap
  let instruction ← PlaneInstruction.ofPayload room .svm PlaneInstruction.invokeMachine tx.toJson
  .ok [instruction]

end CrossVenue.Raydium
