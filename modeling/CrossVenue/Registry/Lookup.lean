import CrossVenue.Failure
import CrossVenue.Json.Shown
import CrossVenue.Registry.Basic

/-!
# Questions to a registry

* `mustSupport_eq_ok_iff`, `supportedPair_eq_ok_iff` : a pair is supported when the registry lists
  it, and nothing but a text names one;
* `factorOf_str`, `evmAddressOf_str`, `pairOutputOf_str` : questions about values are questions about
  texts, and what other values are answered stands beside them;
* `splitPair_append` : a pair splits at its first dash;
* `decimalFactor_pos` : the factor of an asset is never zero.
-/

set_option autoImplicit false

namespace CrossVenue

/-- The texts before and after the first dash; all is before when there is none. -/
def splitPair (pair : Text) : Text × Text :=
  let ps := pair.toList
  (⟨ps.takeWhile (· ≠ .char '-')⟩, ⟨(ps.dropWhile (· ≠ .char '-')).drop 1⟩)

/-- The name of a pair of two assets. -/
def pairOf (asset settlement : Text) : Text := asset ++ "-" ++ settlement

/-- Is the text the asset's symbol or mint? -/
def Denom.isNamed (d : Denom) (denom : Text) : Bool :=
  d.symbol == denom || d.svmMint == some denom

/-- Is the value the asset's symbol or mint?  Null is the mint of an asset that has none. -/
def Denom.isNamedBy (d : Denom) : Json → Bool
  | .str denom => d.isNamed denom
  | .null => d.svmMint.isNone
  | _ => false

namespace Registry

/-- Rejects a pair that the registry does not list. -/
def mustSupport (r : Registry) (pair : Text) : Except Rejection Unit :=
  if pair ∈ r.pairs then .ok () else reject (.pair (.unsupported [pair]))

/-- The pair that a value names, if the registry lists it. -/
def supportedPair (r : Registry) : Json → Except Rejection Text
  | .str pair => (r.mustSupport pair).map fun _ => pair
  | v => reject (.pair (.unsupported v.inSentence))

/-- The other asset of a pair. -/
def pairOutputDenom (r : Registry) (input pair : Text) : Except Rejection Text := do
  r.mustSupport pair
  let (first, second) := splitPair pair
  if input = first then .ok second
  else if input = second then .ok first
  else reject (.pair (.notPartOf [input] pair))

/-- The mint of a symbol; other texts are taken to be mints already. -/
def svmMint (r : Registry) (denom : Text) : Text :=
  match r.denoms.lookup denom with
  | some d => (nonEmpty? d.svmMint).getD denom
  | none => denom

/-- The factor of a symbol or mint, by the first asset that it names; one if there is none. -/
def decimalFactor (r : Registry) (denom : Text) : Nat :=
  match r.denoms.values.find? fun d => d.isNamed denom with
  | some d => d.decimalFactor.val
  | none => 1

/-- The address of a symbol on the EVM plane. -/
def evmAddress (r : Registry) (denom : Text) : Except Rejection Text :=
  match (r.denoms.lookup denom).bind fun d => nonEmpty? d.evmAddress with
  | some a => .ok a
  | none => rejectAt r.uniswap.name (.venue (.noEvmAddress [denom]))

/-- The other asset of a pair, for a value that should be one of its assets. -/
def pairOutputOf (r : Registry) (input : Json) (pair : Text) : Except Rejection Text :=
  match input with
  | .str denom => r.pairOutputDenom denom pair
  | v => do
    r.mustSupport pair
    reject (.pair (.notPartOf v.inSentence pair))

/-- The mint that a value stands for.  What is no text stands for itself, but lists and objects cannot
be looked up. -/
def mintOf (r : Registry) : Json → Attempt Json
  | .str denom => .ok (.str (r.svmMint denom))
  | .arr _ => breakDown .wrongKind
  | .obj _ => breakDown .wrongKind
  | v => .ok v

/-- The factor of what a value names, by the first asset that it names; one if there is none. -/
def factorOf (r : Registry) (v : Json) : Nat :=
  match r.denoms.values.find? fun d => d.isNamedBy v with
  | some d => d.decimalFactor.val
  | none => 1

/-- The address on the EVM plane of what a value names; lists and objects cannot be looked up. -/
def evmAddressOf (r : Registry) : Json → Attempt Text
  | .str denom => (r.evmAddress denom : Except Rejection Text)
  | .arr _ => breakDown .wrongKind
  | .obj _ => breakDown .wrongKind
  | v => failAt r.uniswap.name (.venue (.noEvmAddress v.inSentence))

/-- The accounts of a pair's Raydium pool. -/
def raydiumPool (r : Registry) (pair : Text) : Except Rejection RaydiumPool := do
  r.mustSupport pair
  match r.raydium.pools.lookup pair with
  | some p => .ok p
  | none => rejectAt r.raydium.name (.pair (.notConfigured "raydium" pair))

/-- The contract of a pair on Astroport. -/
def astroportContract (r : Registry) (pair : Text) : Except Rejection Text := do
  r.mustSupport pair
  match r.astroport.contracts.lookup pair with
  | some c => .ok c
  | none => rejectAt r.astroport.name (.pair (.notConfigured "astroport" pair))

/-- The key of a pair's Uniswap pool. -/
def uniswapPool (r : Registry) (pair : Text) : Except Rejection UniswapPoolKey := do
  r.mustSupport pair
  match r.uniswap.pools.lookup pair with
  | some k => .ok k
  | none => rejectAt r.uniswap.name (.pair (.notConfigured "uniswap" pair))

theorem mustSupport_eq_ok_iff {r : Registry} {pair : Text} :
    r.mustSupport pair = .ok () ↔ pair ∈ r.pairs := by
  unfold mustSupport reject
  split <;> simp_all

theorem supportedPair_eq_ok_iff {r : Registry} {v : Json} {pair : Text} :
    r.supportedPair v = .ok pair ↔ v = .str pair ∧ pair ∈ r.pairs := by
  unfold supportedPair
  split
  · rename_i s
    unfold mustSupport
    split
    · rename_i hs
      simp only [Except.map, Except.ok.injEq, Json.str.injEq]
      constructor
      · rintro rfl
        exact ⟨rfl, hs⟩
      · exact fun h => h.1
    · rename_i hs
      simp only [reject, Except.map, Json.str.injEq, reduceCtorEq, false_iff, not_and]
      rintro rfl
      exact hs
  · rename_i hv
    simp only [reject, reduceCtorEq, false_iff, not_and]
    intro h
    exact absurd h (hv pair)

theorem factorOf_str (r : Registry) (denom : Text) :
    r.factorOf (.str denom) = r.decimalFactor denom := rfl

theorem evmAddressOf_str (r : Registry) (denom : Text) :
    r.evmAddressOf (.str denom) = (r.evmAddress denom : Except Rejection Text) := rfl

theorem pairOutputOf_str (r : Registry) (denom pair : Text) :
    r.pairOutputOf (.str denom) pair = r.pairOutputDenom denom pair := rfl

theorem decimalFactor_pos (r : Registry) (denom : Text) : 1 ≤ r.decimalFactor denom := by
  unfold decimalFactor
  split
  · rename_i d _
    exact d.decimalFactor.property
  · exact Nat.le_refl 1

end Registry

theorem splitPair_append {first second : Text} (h : CodePoint.char '-' ∉ first.toList) :
    splitPair (pairOf first second) = (first, second) := by
  have hp : ∀ p ∈ first.toList, (decide (p ≠ .char '-')) = true := by
    intro p hp
    simp only [ne_eq, decide_not, Bool.not_eq_true', decide_eq_false_iff_not]
    rintro rfl
    exact h hp
  simp only [splitPair, pairOf, Text.toList_append]
  rw [List.append_assoc, List.takeWhile_append_of_pos hp, List.dropWhile_append_of_pos hp]
  simp

end CrossVenue
