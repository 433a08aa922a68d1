import CrossVenue.Failure
import CrossVenue.Json.Reader
import CrossVenue.Registry.Builtin

/-!
# Registries as documents

A registry is read from an object and written as one.  Missing parts take their usual values.  A patch
is laid over a document: objects are merged field by field, anything else replaces what it meets.

* `Registry.toJson` : the registry as a document, with all its fields;
* `Registry.patched` : the built-in registry under a patch.
-/

set_option autoImplicit false

namespace CrossVenue

open Schema

namespace Denom

/-- The asset as a document. -/
def toJson (d : Denom) : Json :=
  .obj [("symbol", .str d.symbol), ("svm_mint", Json.ofText? d.svmMint),
    ("evm_address", Json.ofText? d.evmAddress), ("svm_decimal_diff", .int d.decimalFactor.val)]

/-- Reads an asset. -/
def reader : Reader Denom := fun v =>
  (object .modelType v).andThen fun fields =>
    ((((Checked.accepted Denom.mk).and
      (required fields "symbol" text)).and
      (defaulted fields "svm_mint" none (nullable text))).and
      (defaulted fields "evm_address" none (nullable text))).and
      (defaulted fields "svm_decimal_diff" unitFactor (atLeast 1))

end Denom

namespace RaydiumPool

/-- The pool's accounts as a document. -/
def toJson (p : RaydiumPool) : Json :=
  .obj [("authority", .str p.authority), ("amm_config", .str p.ammConfig),
    ("pool_state", .str p.poolState), ("token0_mint", .str p.token0Mint),
    ("token1_mint", .str p.token1Mint), ("token0_vault", .str p.token0Vault),
    ("token1_vault", .str p.token1Vault), ("observer_state", .str p.observerState)]

/-- Reads a pool's accounts. -/
def reader : Reader RaydiumPool := fun v =>
  (object .modelType v).andThen fun fields =>
    ((((((((Checked.accepted RaydiumPool.mk).and
      (defaulted fields "authority" raydiumAuthority text)).and
      (defaulted fields "amm_config" raydiumAmmConfig text)).and
      (required fields "pool_state" text)).and
      (required fields "token0_mint" text)).and
      (required fields "token1_mint" text)).and
      (required fields "token0_vault" text)).and
      (required fields "token1_vault" text)).and
      (required fields "observer_state" text)

end RaydiumPool

/-- The bytes of integers, if all are bytes. -/
def bytesOfIntegers? (ns : List Int) : Option Bytes :=
  if ns.all fun n => 0 ≤ n && n ≤ 255 then some (ns.map fun n => UInt8.ofNat n.toNat) else none

/-- Reads eight bytes given as integers. -/
def discriminatorReader : Reader Discriminator := fun v =>
  (listOf integer v).andThen fun ns =>
    match bytesOfIntegers? ns with
    | some bs => if h : bs.length = 8 then .accepted ⟨bs, h⟩ else .refuse .valueError
    | none => .refuse .valueError

/-- An object with the values of a table. -/
def tableJson {α : Type} (f : α → Json) (t : Table α) : Json := .obj (t.map fun p => (p.1, f p.2))

namespace RaydiumConfig

/-- The venue as a document. -/
def toJson (c : RaydiumConfig) : Json :=
  .obj [("dex_name", .str c.name), ("cpmm_program_id", .str c.programId),
    ("token_program_id", .str c.tokenProgramId),
    ("associated_token_program_id", .str c.ataProgramId),
    ("system_program_id", .str c.systemProgramId),
    ("swap_base_input_discriminator",
      .arr (c.discriminator.val.map fun b => .int b.toNat)),
    ("compute_budget", .int c.computeBudget.val), ("fee_rate", .int c.feeRate.val),
    ("pools", tableJson RaydiumPool.toJson c.pools)]

/-- Reads the venue. -/
def reader : Reader RaydiumConfig := fun v =>
  (object .modelType v).andThen fun fields =>
    (((((((((Checked.accepted RaydiumConfig.mk).and
      (defaulted fields "dex_name" bare.name text)).and
      (defaulted fields "cpmm_program_id" bare.programId text)).and
      (defaulted fields "token_program_id" bare.tokenProgramId text)).and
      (defaulted fields "associated_token_program_id" bare.ataProgramId text)).and
      (defaulted fields "system_program_id" bare.systemProgramId text)).and
      (defaulted fields "swap_base_input_discriminator" bare.discriminator
        discriminatorReader)).and
      (defaulted fields "compute_budget" bare.computeBudget (upTo maxWord64 .lessThan))).and
      (defaulted fields "fee_rate" bare.feeRate (upTo feeScale .lessThanEqual))).and
      (defaulted fields "pools" [] (tableOf RaydiumPool.reader))

end RaydiumConfig

namespace AstroportConfig

/-- The venue as a document. -/
def toJson (c : AstroportConfig) : Json :=
  .obj [("dex_name", .str c.name), ("fee_rate", .int c.feeRate.val),
    ("max_spread", .str c.maxSpread), ("contracts", tableJson .str c.contracts)]

/-- Reads the venue. -/
def reader : Reader AstroportConfig := fun v =>
  (object .modelType v).andThen fun fields =>
    ((((Checked.accepted AstroportConfig.mk).and
      (defaulted fields "dex_name" bare.name text)).and
      (defaulted fields "fee_rate" bare.feeRate (upTo feeScale .lessThanEqual))).and
      (defaulted fields "max_spread" bare.maxSpread text)).and
      (defaulted fields "contracts" [] (tableOf text))

end AstroportConfig

namespace UniswapPoolKey

/-- The key as a document. -/
def toJson (k : UniswapPoolKey) : Json :=
  .obj [("currency0", .str k.currency0), ("currency1", .str k.currency1),
    ("fee", .int k.fee.val), ("tick_spacing", .int k.tickSpacing.val), ("hooks", .str k.hooks)]

/-- Reads a key. -/
def reader : Reader UniswapPoolKey := fun v =>
  (object .modelType v).andThen fun fields =>
    (((((Checked.accepted UniswapPoolKey.mk).and
      (required fields "currency0" text)).and
      (required fields "currency1" text)).and
      (defaulted fields "fee" uniswapPoolFee (upTo maxWord24 .lessThan))).and
      (defaulted fields "tick_spacing" uniswapTickSpacing
        (between minSigned24 maxSigned24 .lessThan))).and
      (defaulted fields "hooks" noHooks text)

end UniswapPoolKey

namespace UniswapConfig

/-- The venue as a document. -/
def toJson (c : UniswapConfig) : Json :=
  .obj [("dex_name", .str c.name), ("router_contract", Json.ofText? c.router),
    ("swap_selector", .str c.selector), ("fee_rate", .int c.feeRate.val),
    ("pools", tableJson UniswapPoolKey.toJson c.pools)]

/-- Reads the venue. -/
def reader : Reader UniswapConfig := fun v =>
  (object .modelType v).andThen fun fields =>
    (((((Checked.accepted UniswapConfig.mk).and
      (defaulted fields "dex_name" bare.name text)).and
      (defaulted fields "router_contract" none (nullable text))).and
      (defaulted fields "swap_selector" bare.selector text)).and
      (defaulted fields "fee_rate" bare.feeRate (upTo feeScale .lessThanEqual))).and
      (defaulted fields "pools" [] (tableOf UniswapPoolKey.reader))

end UniswapConfig

namespace Registry

/-- The registry as a document. -/
def toJson (r : Registry) : Json :=
  .obj [("settlement_denom", .str r.settlementDenom), ("pairs", Json.strings r.pairs),
    ("denoms", tableJson Denom.toJson r.denoms), ("raydium", r.raydium.toJson),
    ("astroport", r.astroport.toJson), ("uniswap", r.uniswap.toJson)]

/-- Reads a registry. -/
def reader : Reader Registry := fun v =>
  (object .modelType v).andThen fun fields =>
    ((((((Checked.accepted Registry.mk).and
      (defaulted fields "settlement_denom" builtinSettlement text)).and
      (defaulted fields "pairs" builtinPairs (listOf text))).and
      (defaulted fields "denoms" [] (tableOf Denom.reader))).and
      (defaulted fields "raydium" RaydiumConfig.bare RaydiumConfig.reader)).and
      (defaulted fields "astroport" AstroportConfig.bare AstroportConfig.reader)).and
      (defaulted fields "uniswap" UniswapConfig.bare UniswapConfig.reader)

/-- The registry of a JSON value; whatever is wrong with it, it is not loaded. -/
def ofJson (v : Json) : Attempt Registry :=
  match reader v with
  | .accepted r => .ok r
  | .refused _ => failWith (.state .registryUnreadable)

/-- The registry of a JSON text, which has to be plain to be stored. -/
def ofText (room : Room) (s : Text) : Attempt Registry :=
  if s.isPlain then
    match Json.read room s with
    | .ok v => ofJson v
    | .error .tooDeep => breakDown .tooDeep
    | .error _ => failWith (.state .registryUnreadable)
  else breakDown .notPlain

end Registry

mutual

/-- The document under a patch. -/
def Json.patch (base : Json) : Json → Json
  | .obj changes =>
    match base with
    | .obj fields => .obj (Json.patchFields fields changes)
    | _ => .obj changes
  | v => v

/-- The fields under the changes of a patch. -/
def Json.patchFields (fields : Table Json) : List (Text × Json) → Table Json
  | [] => fields
  | (name, v) :: rest =>
    let value := match fields.lookup name with
      | some old => Json.patch old v
      | none => v
    Json.patchFields (fields.set name value) rest

end

/-- The built-in registry under a patch. -/
def Registry.patched (patch : Json) : Checked Registry :=
  Registry.reader (Registry.builtin.toJson.patch patch)

end CrossVenue
