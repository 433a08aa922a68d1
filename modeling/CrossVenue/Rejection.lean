import CrossVenue.Text.Sentence

/-!
# Rejections

A rejection is an answer to input that can never succeed: what was wrong with it, and the venue at
which it was found wrong, if there is one.  Each kind of cause is a type of its own, with the
quantities that its message shows; where these may have been given in other ways than as integers they
are pieces of the message.

* `Rejection.kindName` : the name under which a kind is reported;
* `Rejection.message` : the message, led by the venue in brackets;
* `Rejection.isWritable`, `Rejection.isPlain` : what may keep a message from being written or sent;
* `Rejection.isDomain_eq_false_iff` : exhausting the bump seeds is the only rejection that does not
  blame the input.
-/

set_option autoImplicit false

namespace CrossVenue

/-- What is wrong with reserves, sizes or amounts. -/
inductive PoolFault
  | overflow (label : Text) (value : Piece)
  | divisionByZero
  | negativeRoot (value : Piece)
  | negativeReserves (a b : Sentence)
  | feeRateOutside (rate : Piece) (scale : Nat)
  | granularityTooSmall (granularity : Piece)
  | notReversible
  | negativeTrade (size : Piece)
  | emptyPool
  | unknownConvention (shown : Sentence)
  | unpriceable
  | undefinedDeviation
  | undefinedOptimum
  | reservesNotPositive (a b : Piece)
  | amountOutside (label : Text) (amount : Piece) (upper : Nat)
  | negativeTransfer (amount : Piece)
  | transferOverflow (amount : Piece)
  | tooFewPools (count : Nat)
  | negativeAmount (amount : Piece)
deriving DecidableEq, Repr

/-- What is wrong with the number or length of seeds. -/
inductive SeedLengthFault
  | tooMany (limit count : Nat)
  | tooLong (limit length : Nat)
deriving DecidableEq, Repr

/-- What is wrong with seeds of a good length. -/
inductive SeedFault
  | wrongKind (kind : String)
  | onCurve
deriving DecidableEq, Repr

/-- What is wrong with an address. -/
inductive AddressFault
  | curvePointLength (expected length : Nat)
  | emptyText
  | textNotAscii (text : Text)
  | textInvalidCharacter (text shownCharacter : Text)
  | textLength (text : Text) (expected length : Nat)
  | length (expected length : Nat)
  | wrongKind (kind : String)
  | emptyCosmosAddress
  | missingSvmAccount
deriving DecidableEq, Repr

/-- What is missing or wrong with a venue. -/
inductive VenueFault
  | unsupported (name : Text) (supported : List Text)
  | noEvmAddress (denom : Sentence)
  | unknownPlane (shown : Sentence)
  | selectorLength (selector : Text)
  | noRouter
deriving DecidableEq, Repr

/-- What is wrong with a trading pair. -/
inductive PairFault
  | unsupported (pair : Sentence)
  | notPartOf (denom : Sentence) (pair : Text)
  | notConfigured (venue pair : Text)
  | mintNotTraded (mint : Sentence) (pool : Text)
  | notCurrency (denom pool : Text)
  | pairRequired
  | unsupportedSwap (source target : Sentence) (pairs : List Text)
deriving DecidableEq, Repr

/-- What is wrong with state that was handed over.  Messages are cut before the values that some faults
hold, but these are written too. -/
inductive StateFault
  | registryUnreadable
  | accountRecord
  | tokenAccountSize (least size : Nat)
  | poolStateSize (expected size : Nat)
  | unknownAssetInfo (omitted : Sentence)
  | invalidAsset (omitted : Sentence)
  | assetAmountOutside (amount : Int)
  | tooFewAssets (count : Nat)
  | invalidPoolResponse (why : Text)
  | noAssets
  | feesExceedVaults (a b : Int)
  | tooFewRecords (count : Nat)
  | slot0Size (size : Nat)
  | reservePairLength (count : Nat)
deriving DecidableEq, Repr

/-- What is wrong with a transaction's parameters. -/
inductive TransactionFault
  | budgetNotInteger (shown : Sentence)
  | budgetOutside (budget : Int)
  | signersNotTexts
deriving DecidableEq, Repr

/-- What is wrong, by kind. -/
inductive Cause
  | pool (fault : PoolFault)
  | seedLength (fault : SeedLengthFault)
  | seed (fault : SeedFault)
  | address (fault : AddressFault)
  | venue (fault : VenueFault)
  | pair (fault : PairFault)
  | state (fault : StateFault)
  | transaction (fault : TransactionFault)
  | bumpExhausted (program : Text)
deriving DecidableEq, Repr

/-- What is wrong, and the venue where it was found; the empty name stands for none. -/
structure Rejection where
  cause : Cause
  venue : Text
deriving DecidableEq, Repr

/-- Rejects outside of any venue. -/
def reject {α : Type} (cause : Cause) : Except Rejection α := .error ⟨cause, ""⟩

/-- Rejects at a venue. -/
def rejectAt {α : Type} (venue : Text) (cause : Cause) : Except Rejection α :=
  .error ⟨cause, venue⟩

/-- The message of a fault of reserves, sizes or amounts. -/
def PoolFault.sentence : PoolFault → Sentence
  | overflow label v => [label, " overflows 256-bit range: ", v]
  | divisionByZero => ["division by zero"]
  | negativeRoot v => ["square root of negative value: ", v]
  | negativeReserves a b => .join ["reserves must be non-negative: a=", a, ", b=", b]
  | feeRateOutside rate scale => ["fee rate ", rate, " outside 0..", scale]
  | granularityTooSmall g => ["b_granularity must be >= 1, got ", g]
  | notReversible => ["cannot reverse a pool with asset B granularity"]
  | negativeTrade x => ["trade size must be non-negative, got ", x]
  | emptyPool => ["empty pool: reserve_in + x is zero"]
  | unknownConvention shown => .join ["unsupported fee convention: ", shown]
  | unpriceable => ["cannot price a pool with zero asset B reserve"]
  | undefinedDeviation => ["price deviation undefined: b1 * a2 is zero"]
  | undefinedOptimum => ["optimal point undefined: b1 + b2 is zero"]
  | reservesNotPositive a b => ["pool reserves must be positive: a=", a, ", b=", b]
  | amountOutside label amount upper => [label, " ", amount, " outside 0..", upper]
  | negativeTransfer n => ["transfer amount must be non-negative, got ", n]
  | transferOverflow n => ["transfer amount overflows u128: ", n]
  | tooFewPools n => ["arbitrage needs at least two pools, got ", n]
  | negativeAmount n => ["amount must be non-negative, got ", n]

/-- The message of a fault of the number or length of seeds. -/
def SeedLengthFault.sentence : SeedLengthFault → Sentence
  | tooMany limit n => ["at most ", limit, " seeds allowed: ", n]
  | tooLong limit n => ["seed exceeds ", limit, " bytes: ", n]

/-- The message of a fault of seeds. -/
def SeedFault.sentence : SeedFault → Sentence
  | wrongKind kind => ["seed must be bytes or a pubkey, got ", kind]
  | onCurve => ["derived address lands on the ed25519 curve"]

/-- The message of a fault of an address. -/
def AddressFault.sentence : AddressFault → Sentence
  | curvePointLength expected n => ["curve point must be ", expected, " bytes: ", n]
  | emptyText => ["pubkey from string: empty string"]
  | textNotAscii text => ["pubkey from string: ", text]
  | textInvalidCharacter text c => ["pubkey from string: ", text, ": Invalid character ", c]
  | textLength text expected n =>
    ["pubkey from string: ", text, ": pubkey must be ", expected, " bytes: ", n]
  | length expected n => ["pubkey must be ", expected, " bytes: ", n]
  | wrongKind kind => ["cannot interpret ", kind, " as a pubkey"]
  | emptyCosmosAddress => ["cosmos address bytes must not be empty"]
  | missingSvmAccount => ["raydium swaps require the sender's SVM account"]

/-- The message of a fault of a venue. -/
def VenueFault.sentence : VenueFault → Sentence
  | unsupported name supported =>
    let list := Text.intercalate ", " (supported.map fun s => "'" ++ s ++ "'")
    ["Unsupported: ", name, ". Supported: ", list]
  | noEvmAddress denom => .join ["no EVM address configured for ", denom]
  | unknownPlane shown => .join ["unknown plane: ", shown]
  | selectorLength selector => ["selector must be 4 bytes: ", selector]
  | noRouter => ["no uniswap router configured"]

/-- The message of a fault of a pair. -/
def PairFault.sentence : PairFault → Sentence
  | unsupported pair => .join ["unsupported pair: ", pair]
  | notPartOf denom pair => .join [denom, " is not part of pair ", pair]
  | notConfigured venue pair => [venue, " pair not found: ", pair]
  | mintNotTraded mint pool => .join ["mint ", mint, " is not traded by pool ", pool]
  | notCurrency denom pool => [denom, " is not a currency of pool ", pool]
  | pairRequired => ["a pair is required to quote uniswap reserves"]
  | unsupportedSwap source target pairs =>
    let list := Text.intercalate ", " pairs
    .join ["Unsupported swap from ", source, " to ", target, ". Supported pairs: ", list]

/-- The message of a fault of state. -/
def StateFault.sentence : StateFault → Sentence
  | registryUnreadable => ["cannot load venue registry"]
  | accountRecord => ["invalid svm account record"]
  | tokenAccountSize least n => ["token account size must be >= ", least, " bytes, got ", n]
  | poolStateSize expected n => ["pool state account must be ", expected, " bytes, current len: ", n]
  | unknownAssetInfo _ => ["unknown asset info"]
  | invalidAsset _ => ["invalid astroport asset"]
  | assetAmountOutside n => ["asset amount outside u128 range: ", n]
  | tooFewAssets n => ["expected 2 pool assets, got ", n]
  | invalidPoolResponse why => ["invalid pool response: ", why]
  | noAssets => ["pool response has no assets"]
  | feesExceedVaults a b => ["accrued fees exceed vault balances: a=", a, ", b=", b]
  | tooFewRecords n => ["expected 3 account records (vault 0, vault 1, pool state), got ", n]
  | slot0Size n => ["slot0 data must be 32 bytes, got ", n]
  | reservePairLength n =>
    ["uniswap reserves must be a (settlement, pair asset) pair, got ", n, " values"]

/-- The message of a fault of a transaction's parameters. -/
def TransactionFault.sentence : TransactionFault → Sentence
  | budgetNotInteger shown => .join ["compute budget must be an integer, got ", shown]
  | budgetOutside n => ["compute budget outside u64 range: ", n]
  | signersNotTexts => ["signers must be a list of address strings"]

/-- The message of a cause. -/
def Cause.sentence : Cause → Sentence
  | pool f => f.sentence
  | seedLength f => f.sentence
  | seed f => f.sentence
  | address f => f.sentence
  | venue f => f.sentence
  | pair f => f.sentence
  | state f => f.sentence
  | transaction f => f.sentence
  | bumpExhausted program => ["unable to find a viable program address bump seed for ", program]

/-- What messages omit about a cause. -/
def Cause.omitted : Cause → Sentence
  | state (.unknownAssetInfo s) => s
  | state (.invalidAsset s) => s
  | _ => []

/-- The name under which a kind of cause is reported. -/
def Cause.kindName : Cause → String
  | pool _ => "PoolMathError"
  | seedLength _ => "MaxSeedLengthExceededError"
  | seed _ => "InvalidSeedsError"
  | address _ => "InvalidAddressError"
  | venue _ => "UnsupportedVenueError"
  | pair _ => "UnsupportedPairError"
  | state _ => "StateDecodeError"
  | transaction _ => "InvalidTransactionError"
  | bumpExhausted _ => "BumpSeedExhaustedError"

namespace Rejection

/-- The name under which the rejection is reported. -/
def kindName (r : Rejection) : String := r.cause.kindName

/-- The message in pieces, led by the venue in brackets if there is one. -/
def sentence (r : Rejection) : Sentence :=
  if r.venue.isEmpty then r.cause.sentence else "[" :: r.venue :: "] " :: r.cause.sentence

/-- The message. -/
def message (r : Rejection) : Text := r.sentence.text

/-- Can the message be written, and what it omits? -/
def isWritable (r : Rejection) : Bool := r.sentence.isWritable && r.cause.omitted.isWritable

/-- Are the message and what it omits plain? -/
def isPlain (r : Rejection) : Bool := r.message.isPlain && r.cause.omitted.text.isPlain

/-- Is the input to blame?  Then trying again cannot help. -/
def isDomain (r : Rejection) : Bool :=
  match r.cause with
  | .bumpExhausted _ => false
  | _ => true

theorem isDomain_eq_false_iff {r : Rejection} :
    r.isDomain = false ↔ ∃ program, r.cause = .bumpExhausted program := by
  unfold isDomain
  split <;> simp_all

end Rejection

end CrossVenue
