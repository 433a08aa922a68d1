import CrossVenue.Json.Reader
import CrossVenue.Json.Shown
import CrossVenue.Message.PlaneInstruction
import CrossVenue.Message.Swap
import CrossVenue.Pool.Basic
import CrossVenue.Registry.Lookup
import CrossVenue.Venue.Amount

/-!
# Astroport

Pair contracts on the WASM plane, which take their fee from the output.  Pools are quoted from the
answer to a pool query, in which each asset is described by a token contract or a native denom.
-/

set_option autoImplicit false

namespace CrossVenue.Astroport

/-- The venue that rejections of a single asset name, whatever the registry calls it. -/
def assetVenue : Text := "astroport"

/-- Why an asset is not read. -/
inductive AssetFault
  | malformed
  | unknownInfo (info : Json)
  | infinite

/-- The failure to read an asset; messages are about the asset or its description. -/
def AssetFault.failure (asset : Json) : AssetFault → Failure
  | malformed => Rejection.failure ⟨.state (.invalidAsset asset.inSentence), assetVenue⟩
  | unknownInfo info => Rejection.failure ⟨.state (.unknownAssetInfo info.inSentence), assetVenue⟩
  | infinite => .broken .notFinite

/-- Does the first list occur in the second one as a block? -/
def isInfix (needle : List CodePoint) : List CodePoint → Bool
  | [] => needle.isEmpty
  | p :: ps => needle.isPrefixOf (p :: ps) || isInfix needle ps

/-- Does a value hold a name: as a field, as an item or as a part of a text? -/
def holds (v : Json) (name : Text) : Except AssetFault Bool :=
  match v with
  | .obj fields => .ok (fields.lookup name).isSome
  | .arr items => .ok (items.any fun w => w.isText name)
  | .str s => .ok (isInfix name.toList s.toList)
  | _ => .error .malformed

/-- The field of a description. -/
def part (v : Json) (name : Text) : Except AssetFault Json :=
  match v.field? name with
  | some w => .ok w
  | none => .error .malformed

/-- The amount of an asset, before its range is checked. -/
def assetAmount : Json → Except AssetFault Int
  | .int n => .ok n
  | .bool b => .ok (if b then 1 else 0)
  | .str s =>
    match Text.readInteger? s with
    | some n => .ok n
    | none => .error .malformed
  | .float (.infinite _) => .error .infinite
  | .float x =>
    match x.truncate? with
    | some n => .ok n
    | none => .error .malformed
  | _ => .error .malformed

/-- The asset that a description names. -/
def assetDenom (info : Json) : Except AssetFault Json := do
  if ← holds info "token" then part (← part info "token") "contract_addr"
  else if ← holds info "native_token" then part (← part info "native_token") "denom"
  else .error (.unknownInfo info)

/-- The denom and the amount of an asset, before the amount's range is checked. -/
def assetParts (asset : Json) : Except AssetFault (Json × Int) := do
  let denom ← assetDenom (← part asset "info")
  let amount ← assetAmount (← part asset "amount")
  .ok (denom, amount)

/-- The denom and the amount of an asset. -/
def parseAsset (asset : Json) : Attempt (Json × Nat) := do
  let (denom, amount) ← (assetParts asset).mapError (AssetFault.failure asset)
  if amount < 0 ∨ (maxWord128 : Int) < amount then
    failAt assetVenue (.state (.assetAmountOutside amount))
  else .ok (denom, amount.toNat)

/-- How many parts a value has. -/
def size : Json → Attempt Nat
  | .arr items => .ok items.length
  | .obj fields => .ok fields.length
  | .str s => .ok s.length
  | _ => breakDown .wrongKind

/-- The first two of at least two assets; those of a text are its first two code points. -/
def firstTwo : Json → Attempt (Json × Json)
  | .arr (p :: q :: _) => .ok (p, q)
  | .str ⟨p :: q :: _⟩ => .ok (.str ⟨[p]⟩, .str ⟨[q]⟩)
  | .obj _ => breakDown .missingKey
  | _ => breakDown .wrongKind

/-- The pool of two assets, with the settlement asset as asset A if one of them is. -/
def poolOfPair (r : Registry) (p q : Json × Nat) : Except Rejection Pool :=
  let (a, b) := if p.1.isText r.settlementDenom then (p, q) else (q, p)
  Listing.toPool
    { venue := r.astroport.name
      plane := Plane.cosmos.name
      reserveA := a.2
      reserveB := b.2
      feeRate := r.astroport.feeRate.val
      convention := .postFee
      denomA := a.1
      denomB := b.1
      granularity := 1 }

/-- The pool of a list of assets. -/
def poolOfAssets (r : Registry) (assets : Json) : Attempt Pool := do
  let n ← size assets
  if n < 2 then failAt r.astroport.name (.state (.tooFewAssets n))
  else
    let (first, second) ← firstTwo assets
    let p ← parseAsset first
    let q ← parseAsset second
    poolOfPair r p q

/-- The answer to a pool query, read if it is text. -/
def readResponse (room : Room) (r : Registry) : Json → Attempt Json
  | .str s =>
    match Json.read room s with
    | .ok v => .ok v
    | .error .tooDeep => breakDown .tooDeep
    | .error fault => failAt r.astroport.name (.state (.invalidPoolResponse (fault.text s)))
  | v => .ok v

/-- The pool of the answer to a pool query. -/
def poolOfResponse (room : Room) (r : Registry) (response : Json) : Attempt Pool := do
  match (← readResponse room r response).field? "assets" with
  | some assets => poolOfAssets r assets
  | none => failAt r.astroport.name (.state .noAssets)

/-- The payload of a swap on a contract. -/
def swapPayload (r : Registry) (swap : Swap) (contract : Text) (amount : Nat) : Json :=
  .obj [
    ("sender", .str swap.sender),
    ("contract", .str contract),
    ("msg", .obj [
      ("swap", .obj [
        ("offer_asset", .obj [
          ("info", .obj [("native_token", .obj [("denom", .str swap.denom)])]),
          ("amount", .str (toString amount))]),
        ("ask_asset_info", .null),
        ("belief_price", .null),
        ("max_spread", .str r.astroport.maxSpread),
        ("to", .str swap.sender)])]),
    ("funds", .arr [.obj [("denom", .str swap.denom), ("amount", .str (toString amount))]])]

/-- The instruction that executes a swap. -/
def composeSwap (room : Room) (r : Registry) (swap : Swap) : Attempt (List PlaneInstruction) := do
  let contract ← (r.astroportContract swap.pair : Except Rejection Text)
  let amount ← (checkAmount r.astroport.name "swap amount" swap.amount maxWord128 :
    Except Rejection Nat)
  let instruction ← PlaneInstruction.ofPayload room .wasm PlaneInstruction.invokeMachine
    (swapPayload r swap contract amount)
  .ok [instruction]

end CrossVenue.Astroport
