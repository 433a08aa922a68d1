import CrossVenue.Encoding.Hex
import CrossVenue.Failure
import CrossVenue.Registry.Basic

/-!
# Calls of the Uniswap router

A call is a selector of four bytes and ten words of 32 bytes: the pool's key in five, the swap's
parameters in three, the offset of the hook data, and their length, which the data follow in whole
words.  Signed values are written in two's complement.
-/

set_option autoImplicit false

namespace CrossVenue

/-- The bytes of forty digits, which `0x` may lead. -/
def addressDigits? (cs : List Char) : Option Bytes :=
  let digits := match cs with
    | '0' :: x :: rest => if x = 'x' ∨ x = 'X' then rest else '0' :: x :: rest
    | cs => cs
  if digits.length = 40 then Hex.decodeChars? digits else none

/-- The bytes of an address of the EVM plane. -/
def evmAddressBytes? (t : Text) : Option Bytes := t.chars?.bind addressDigits?

/-- The bytes of an address of the EVM plane, or a breakdown. -/
def evmAddressBytes (t : Text) : Attempt Bytes :=
  match evmAddressBytes? t with
  | some bs => .ok bs
  | none => breakDown .badText

/-- What a call of the router says, with all its parts as they are written. -/
structure RouterCall where
  selector : Bytes
  currency0 : Bytes
  currency1 : Bytes
  fee : Nat
  tickSpacing : Int
  hooks : Bytes
  zeroForOne : Bool
  /-- Below zero for an exact input. -/
  amount : Int
  priceLimit : Nat
  hookData : Bytes
deriving DecidableEq, Repr

/-- How many bytes a word has. -/
def wordSize : Nat := 32

/-- The word of a natural number. -/
def naturalWord (n : Nat) : Bytes := Bytes.ofBigEndian wordSize n

/-- The word of an integer, in two's complement. -/
def integerWord (n : Int) : Bytes := Bytes.ofBigEndian wordSize (n % (2 * (maxWord + 1))).toNat

/-- The word of an address. -/
def addressWord (address : Bytes) : Bytes := List.replicate (wordSize - address.length) 0 ++ address

/-- Bytes filled up with zeros to whole words. -/
def paddedBytes (bs : Bytes) : Bytes :=
  bs ++ List.replicate ((wordSize - bs.length % wordSize) % wordSize) 0

/-- Where the hook data begin, counted from the end of the selector. -/
def hookDataOffset : Nat := 9 * wordSize

/-- The bytes of a call. -/
def RouterCall.encode (c : RouterCall) : Bytes :=
  c.selector ++ addressWord c.currency0 ++ addressWord c.currency1 ++ naturalWord c.fee ++
    integerWord c.tickSpacing ++ addressWord c.hooks ++ naturalWord (if c.zeroForOne then 1 else 0) ++
    integerWord c.amount ++ naturalWord c.priceLimit ++ naturalWord hookDataOffset ++
    naturalWord c.hookData.length ++ paddedBytes c.hookData

/-- The word at a position after the selector. -/
def wordAt (bs : Bytes) (i : Nat) : Bytes := Bytes.slice bs (4 + i * wordSize) wordSize

/-- The call that bytes spell, if they are laid out as calls are. -/
def RouterCall.decode? (bs : Bytes) : Option RouterCall :=
  let count := Bytes.bigEndian (wordAt bs 9)
  if Bytes.bigEndian (wordAt bs 8) = hookDataOffset ∧ 4 + hookDataOffset + wordSize + count ≤ bs.length
  then
    some {
      selector := bs.take 4
      currency0 := (wordAt bs 0).drop 12
      currency1 := (wordAt bs 1).drop 12
      fee := Bytes.bigEndian (wordAt bs 2)
      tickSpacing := Bytes.signed 256 (Bytes.bigEndian (wordAt bs 3))
      hooks := (wordAt bs 4).drop 12
      zeroForOne := Bytes.bigEndian (wordAt bs 5) = 1
      amount := Bytes.signed 256 (Bytes.bigEndian (wordAt bs 6))
      priceLimit := Bytes.bigEndian (wordAt bs 7)
      hookData := Bytes.slice bs (4 + hookDataOffset + wordSize) count }
  else none

/-- The characters of a selector without the digits' lead. -/
def selectorDigits : List Char → List Char
  | '0' :: 'x' :: rest => rest
  | cs => cs

/-- The four bytes of a selector. -/
def readSelector (selector : Text) : Attempt Bytes :=
  match selector.chars?.bind fun cs => Hex.decodeSpaced? (selectorDigits cs) with
  | none => breakDown .badText
  | some bs =>
    if bs.length = 4 then .ok bs else failAt "uniswap" (.venue (.selectorLength selector))

/-- The greatest word of 160 bits. -/
def maxWord160 : Nat := 0xffffffffffffffffffffffffffffffffffffffff

/-- An argument that has to be a selector. -/
def selectorArgument : Json → Attempt Bytes
  | .str selector => readSelector selector
  | _ => breakDown .unsupported

/-- An argument that has to be a truth value. -/
def flagArgument : Json → Attempt Bool
  | .bool b => .ok b
  | _ => breakDown .notEncodable

/-- An argument that has to be an integer between two bounds. -/
def wordArgument (least greatest : Int) : Json → Attempt Int
  | .int n => if n < least ∨ greatest < n then breakDown .outOfWord else .ok n
  | _ => breakDown .notEncodable

/-- The bytes of a call of the router's swap with arguments that may be any values. -/
def calldataOfValues (key : UniswapPoolKey) (zeroForOne amount priceLimit selector : Json)
    (hookData : Bytes) : Attempt Bytes := do
  let selector ← selectorArgument selector
  let currency0 ← evmAddressBytes key.currency0
  let currency1 ← evmAddressBytes key.currency1
  let hooks ← evmAddressBytes key.hooks
  let zeroForOne ← flagArgument zeroForOne
  let amount ← wordArgument minWord maxWord amount
  let priceLimit ← wordArgument 0 maxWord160 priceLimit
  .ok <| RouterCall.encode
    { selector := selector
      currency0 := currency0
      currency1 := currency1
      fee := key.fee.val
      tickSpacing := key.tickSpacing.val
      hooks := hooks
      zeroForOne := zeroForOne
      amount := amount
      priceLimit := priceLimit.toNat
      hookData := hookData }

/-- The bytes of a call of the router's swap. -/
def swapCalldata (key : UniswapPoolKey) (zeroForOne : Bool) (amount priceLimit : Int)
    (selector : Text) (hookData : Bytes) : Attempt Bytes :=
  calldataOfValues key (.bool zeroForOne) (.int amount) (.int priceLimit) (.str selector) hookData

end CrossVenue
