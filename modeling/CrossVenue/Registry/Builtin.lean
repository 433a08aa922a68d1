import CrossVenue.Registry.Basic

/-!
# The built-in registry

The deployment that is used when no registry is given, and the values that a registry's missing parts
take.
-/

set_option autoImplicit false

namespace CrossVenue

open Schema (UpTo AtLeast)

/-- The eight bytes that select a swap with a given input. -/
def swapBaseInput : Discriminator := ⟨[143, 190, 90, 218, 196, 30, 51, 222], rfl⟩

/-- The selector of the router's swap. -/
def routerSwapSelector : Text := "0x92443779"

/-- The authority of Raydium pools, unless a pool names its own. -/
def raydiumAuthority : Text := "GpMZbSM2GgvTKHJirzeGfMFoaZ8UR2X7F4v8vHTvxFbL"

/-- The configuration of Raydium pools, unless a pool names its own. -/
def raydiumAmmConfig : Text := "D4FPEruKEHrG5TenZ2mpDGEfu1iUvTiqBxvpU8HLBvC2"

/-- The address that stands for no hooks. -/
def noHooks : Text := "0x0000000000000000000000000000000000000000"

/-- How many units of ether elsewhere make up one on the SVM plane. -/
def etherFactor : AtLeast 1 := ⟨1000000000, by decide⟩

/-- The factor of assets that have the same units everywhere. -/
def unitFactor : AtLeast 1 := ⟨1, by decide⟩

/-- The Raydium venue without pools. -/
def RaydiumConfig.bare : RaydiumConfig :=
  { name := "raydium"
    programId := "CPMMoo8L3F4NbTegBCKVNunggL7H1ZpdTHKxQB5qKP1C"
    tokenProgramId := "TokenzQdBNbLqP5VEhdkAS6EPFLC1PHnBqCXEpPxuEb"
    ataProgramId := "ATokenGPvbdGVxr1b2hvZbsiqW5xWH25efTNsLJA8knL"
    systemProgramId := "11111111111111111111111111111111"
    discriminator := swapBaseInput
    computeBudget := ⟨10000000, by decide⟩
    feeRate := ⟨1000, by decide⟩
    pools := [] }

/-- The Astroport venue without contracts. -/
def AstroportConfig.bare : AstroportConfig :=
  { name := "astroport"
    feeRate := ⟨10000, by decide⟩
    maxSpread := "0.5"
    contracts := [] }

/-- The fee of a Uniswap pool that names none. -/
def uniswapPoolFee : UpTo maxWord24 := ⟨3000, by decide⟩

/-- The tick spacing of a Uniswap pool that names none. -/
def uniswapTickSpacing : SignedWord24 := ⟨60, by decide⟩

/-- The Uniswap venue without a router and without pools. -/
def UniswapConfig.bare : UniswapConfig :=
  { name := "uniswap"
    router := none
    selector := routerSwapSelector
    feeRate := ⟨3000, by decide⟩
    pools := [] }

/-- The pairs that are supported unless a registry names its own. -/
def builtinPairs : List Text := ["btc-usdt", "eth-usdt", "sol-usdt"]

/-- The settlement asset unless a registry names its own. -/
def builtinSettlement : Text := "usdt"

/-- The mint of bitcoin on the SVM plane. -/
def bitcoinMint : Text := "ENyus6yS21v95sreLKcVEA5Wjcyh8jg6w4jBFHzJaPox"

/-- The mint of ether on the SVM plane. -/
def etherMint : Text := "7Smiqjum5Xd7sZYysWXuS4Qbws6Y1rUKjcxudFJsLGJc"

/-- The mint of the third asset on the SVM plane. -/
def solMint : Text := "1a5UtpbTcDiUPQcQ5tMSKQoLJXTzQRrjitQXxozn4ga"

/-- The mint of the settlement asset on the SVM plane. -/
def tetherMint : Text := "ErDYXZUZ9rpSSvdWvrsQwgh6K4BQeoY2CPyv1FeD1S9r"

/-- An asset with a mint and no address on the EVM plane. -/
def mintedDenom (symbol mint : Text) (factor : AtLeast 1) : Text × Denom :=
  (symbol, ⟨symbol, some mint, none, factor⟩)

/-- The built-in assets. -/
def builtinDenoms : Table Denom := [
  mintedDenom "btc" bitcoinMint unitFactor,
  mintedDenom "eth" etherMint etherFactor,
  mintedDenom "sol" solMint unitFactor,
  mintedDenom "usdt" tetherMint unitFactor
]

/-- The built-in Raydium pools. -/
def builtinRaydiumPools : Table RaydiumPool := [
  ("btc-usdt",
    { authority := raydiumAuthority
      ammConfig := raydiumAmmConfig
      poolState := "HUtjobntUDzrsq1k7xLM6SLzuZyUvr2U8skA8SUWevFd"
      token0Mint := bitcoinMint
      token1Mint := tetherMint
      token0Vault := "9U5Lpfmc6u1rCRAfzGe883KnK5Avm76zX4te6sexvCEk"
      token1Vault := "UURmKznoUTh8Dt9wgyusq6u1ETuY8Zj79NFAtfQJ7HB"
      observerState := "FXqXrt2xDrxg7J5wdXrTbB2hCGajSzXLvwvc4x3Uw7i" }),
  ("eth-usdt",
    { authority := raydiumAuthority
      ammConfig := raydiumAmmConfig
      poolState := "GASMVGvEguNjicG1UhaTiYDPib4geFQBXjtbqAG1HPLH"
      token0Mint := etherMint
      token1Mint := tetherMint
      token0Vault := "CP9w46ipnMBBQP2Nqg8DceobmnTFeb9Pri5W2RX1CiSV"
      token1Vault := "DCJQyrGYeHWocMxpBBWCSJEgtMFZXgwMuXxZnkrHtuvW"
      observerState := "aLPmyw8Zs6kivaeaysiA1CXyhKCngeUW1deStmbn7ri" }),
  ("sol-usdt",
    { authority := raydiumAuthority
      ammConfig := raydiumAmmConfig
      poolState := "F5h7xu4VdUdY3LRxCWo8Jv6HcdVK4tNsnEwdhBHvQA9K"
      token0Mint := solMint
      token1Mint := tetherMint
      token0Vault := "HNHWS8EqDH8GCW5XeL6dVirSRPcKEn5mZ7qUzvHWfizD"
      token1Vault := "6DY4BxWgdoNG557vXUif4A6AdMSSrR7RH4uarfBW7vb5"
      observerState := "8rvsAHa9HztPWoioR8w6FR64VdS3TZCCmK52i1xCEJoF" })
]

/-- The built-in Astroport contracts. -/
def builtinContracts : Table Text := [
  ("btc-usdt", "lux1nc5tatafv6eyq7llkr2gv50ff9e22mnf70qgjlv737ktmt4eswrqhywrts"),
  ("eth-usdt", "lux1aakfpghcanxtc45gpqlx8j3rq0zcpyf49qmhm9mdjrfx036h4z5sdltq0m"),
  ("sol-usdt", "lux18v47nqmhvejx3vc498pantg8vr435xa0rt6x0m6kzhp6yuqmcp8s3z45es")
]

/-- The registry that is used when none is given. -/
def Registry.builtin : Registry :=
  { settlementDenom := builtinSettlement
    pairs := builtinPairs
    denoms := builtinDenoms
    raydium := { RaydiumConfig.bare with pools := builtinRaydiumPools }
    astroport := { AstroportConfig.bare with contracts := builtinContracts }
    uniswap := UniswapConfig.bare }

end CrossVenue
