import CrossVenue.Proofs.Message.Reading
import CrossVenue.Proofs.Transaction.Wire
import CrossVenue.Transaction.Wire
import CrossVenue.Venue.Astroport
import CrossVenue.Venue.Uniswap

/-!
# What a swap offers

Every venue is told in its own form how much a swap offers: a contract gets a message and the coins to
go with it, the router a word of 32 bytes, a program the data of an instruction.

* `PlaneInstruction.offer?` : the reader of such messages;
* `Astroport.composeSwap_eq_ok_iff` : what a contract is sent;
* `Uniswap.prepare_eq_ok_iff`, `Uniswap.composeSwap_eq_ok_iff` : what the router is sent;
* `Astroport.composeSwap_offers`, `Uniswap.composeSwap_offers` : what the message of a composed swap
  offers.
-/

set_option autoImplicit false

namespace CrossVenue

/-- What a swap offers. -/
structure SwapOffer where
  /-- The asset by its name on the plane, if the message holds one. -/
  denom : Option Text
  amount : Nat
deriving DecidableEq, Repr

/-- Reads the message of a pair contract; the coins that go with it have to be what is offered. -/
def Astroport.offer? (body : Json) : Option SwapOffer := do
  let denom ← body.textAt? ["msg", "swap", "offer_asset", "info", "native_token", "denom"]
  let amount ← body.amountAt? ["msg", "swap", "offer_asset", "amount"]
  match body.at? ["funds"] with
  | some (.arr [coin]) =>
    if coin.textAt? ["denom"] = some denom ∧ coin.amountAt? ["amount"] = some amount then
      some ⟨some denom, amount⟩
    else none
  | _ => none

/-- Reads the message of the router. -/
def Uniswap.offer? (body : Json) : Option SwapOffer := do
  let word ← Base64.decode? (← body.textAt? ["input_amount"])
  some ⟨none, word.bigEndian⟩

/-- Reads the second instruction of a transaction: its eleventh account is the mint of what goes in, and
the amount comes after the eight bytes that select the swap. -/
def Raydium.offerOf? (tx : Transaction) : Option SwapOffer :=
  match tx.decompile with
  | some [_, swap] =>
    some ⟨swap.accounts[10]?.map AccountMeta.pubkey, (Bytes.slice swap.data 8 8).littleEndian⟩
  | _ => none

/-- Reads the message of the SVM plane, which is a transaction. -/
def Raydium.offer? (body : Json) : Option SwapOffer :=
  (Transaction.reader body).toOption.bind offerOf?

/-- What the swap of an instruction offers. -/
def PlaneInstruction.offer? (i : PlaneInstruction) : Option SwapOffer :=
  match i.plane with
  | .wasm => i.body?.bind Astroport.offer?
  | .evm => i.body?.bind Uniswap.offer?
  | .svm => i.body?.bind Raydium.offer?
  | .cosmos => none

theorem PlaneInstruction.offer?_carrying {payload : Json}
    (h : payload.IsReadable Room.least.levels) (plane : Plane) (action : Text) :
    (carrying plane action payload).offer? =
      match plane with
      | .wasm => Astroport.offer? payload.rejoined
      | .evm => Uniswap.offer? payload.rejoined
      | .svm => Raydium.offer? payload.rejoined
      | .cosmos => none := by
  simp only [offer?, body?_carrying h]
  cases plane <;> rfl

/-! ## Astroport -/

namespace Astroport

theorem isReadable_swapPayload (r : Registry) (swap : Swap) (contract : Text) (n : Nat) {room : Nat}
    (h : 6 ≤ room) : (swapPayload r swap contract n).IsReadable room := by
  simp [swapPayload, Json.IsReadable, Json.HaveReadable, Json.AreReadable, Text.ofString_inj]
  omega

theorem offer?_swapPayload (r : Registry) (swap : Swap) (contract : Text) {n : Nat}
    (hn : n < Number.tooLong) :
    offer? (swapPayload r swap contract n).rejoined = some ⟨some swap.denom.rejoined, n⟩ := by
  simp [offer?, swapPayload, Json.rejoined, Json.rejoinedFields, Json.rejoinedItems,
    Json.textAt?, Json.amountAt?, Json.at?, Json.field?, List.lookup_cons, Text.ofString_beq,
    textOf?, Json.amountOf?_repr hn]

/-- **What a swap is composed to.** -/
theorem composeSwap_eq_ok_iff {room : Room} {r : Registry} {swap : Swap} {is : List PlaneInstruction} :
    composeSwap room r swap = .ok is ↔
      ∃ contract, ∃ n : Nat, r.astroportContract swap.pair = .ok contract ∧
        ((n : Int) = swap.amount ∧ n ≤ maxWord128) ∧
        is = [.carrying .wasm PlaneInstruction.invokeMachine (swapPayload r swap contract n)] := by
  simp only [composeSwap, bind_eq_ok_iff, lift_eq_ok_iff, checkAmount_eq_ok_iff,
    PlaneInstruction.ofPayload_of_isReadable (isReadable_swapPayload _ _ _ _ room.ample),
    Except.ok.injEq, exists_eq_left']
  constructor
  · rintro ⟨contract, hcontract, n, hn, rfl⟩
    exact ⟨contract, n, hcontract, hn, rfl⟩
  · rintro ⟨contract, n, hcontract, hn, rfl⟩
    exact ⟨contract, hcontract, n, hn, rfl⟩

/-- **The message of a contract offers the amount of the swap.** -/
theorem composeSwap_offers {room : Room} {r : Registry} {swap : Swap} {is : List PlaneInstruction}
    (h : composeSwap room r swap = .ok is) :
    ∃ i, ∃ n : Nat, is = [i] ∧ (n : Int) = swap.amount ∧ i.plane = .wasm ∧
      i.offer? = some ⟨some swap.denom.rejoined, n⟩ := by
  obtain ⟨contract, n, -, ⟨hn, hle⟩, rfl⟩ := composeSwap_eq_ok_iff.1 h
  have hlt : maxWord128 < Number.tooLong := by decide +kernel
  refine ⟨_, n, rfl, hn, rfl, ?_⟩
  rw [PlaneInstruction.offer?_carrying (isReadable_swapPayload _ _ _ _ Room.least.ample)]
  exact offer?_swapPayload r swap contract (hle.trans_lt hlt)

end Astroport

/-! ## Uniswap -/

namespace Uniswap

theorem isReadable_swapPayload (swap : Swap) (router calldata : Bytes) (n : Nat) {room : Nat}
    (h : 6 ≤ room) : (swapPayload swap router calldata n).IsReadable room := by
  simp [swapPayload, Json.IsReadable, Json.HaveReadable, Text.ofString_inj]
  omega

theorem offer?_swapPayload (swap : Swap) (router calldata : Bytes) {n : Nat} (hn : n ≤ maxWord) :
    offer? (swapPayload swap router calldata n).rejoined = some ⟨none, n⟩ := by
  simp [offer?, swapPayload, Json.rejoined, Json.rejoinedFields, Json.textAt?, Json.at?,
    Json.field?, List.lookup_cons, Text.ofString_beq, textOf?, Base64.decode?_encode,
    Bytes.bigEndian_ofBigEndian]
  exact Nat.lt_of_le_of_lt hn (by decide)

/-- **What a swap needs to know**, from the registry and the swap. -/
theorem prepare_eq_ok_iff {r : Registry} {swap : Swap} {p : Prepared} :
    prepare r swap = .ok p ↔
      nonEmpty? r.uniswap.router = some p.router ∧ r.uniswapPool swap.pair = .ok p.key ∧
        checkAmount r.uniswap.name "swap amount" swap.amount maxWord = .ok p.amount ∧
        ∃ token, r.evmAddress swap.denom = .ok token ∧ zeroForOne? p.key token = some p.zeroForOne := by
  unfold prepare
  cases hrouter : nonEmpty? r.uniswap.router with
  | none =>
    simp only [reduceCtorEq, false_and, iff_false]
    intro h
    cases h
  | some router =>
    simp only [bind_eq_ok_iff]
    constructor
    · rintro ⟨key, hkey, n, hn, token, htoken, h⟩
      split at h
      · cases h
      · rename_i zeroForOne hdirection
        cases h
        exact ⟨rfl, hkey, hn, token, htoken, hdirection⟩
    · rintro ⟨hp, hkey, hn, token, htoken, hdirection⟩
      refine ⟨_, hkey, _, hn, token, htoken, ?_⟩
      rw [hdirection]
      obtain ⟨⟩ := p
      cases hp
      rfl

theorem amount_of_prepare {r : Registry} {swap : Swap} {p : Prepared} (h : prepare r swap = .ok p) :
    (p.amount : Int) = swap.amount ∧ p.amount ≤ maxWord := by
  obtain ⟨-, -, hamount, -⟩ := prepare_eq_ok_iff.1 h
  exact checkAmount_eq_ok_iff.1 hamount

/-- **What a swap is composed to.** -/
theorem composeSwap_eq_ok_iff {room : Room} {r : Registry} {swap : Swap} {is : List PlaneInstruction} :
    composeSwap room r swap = .ok is ↔
      ∃ p calldata router, prepare r swap = .ok p ∧
        swapCalldata p.key p.zeroForOne (-(p.amount : Int)) (priceLimit p.zeroForOne)
          r.uniswap.selector [] = .ok calldata ∧
        evmAddressBytes p.router = .ok router ∧
        is = [.carrying .evm PlaneInstruction.invokeMachine
          (swapPayload swap router calldata p.amount)] := by
  simp only [composeSwap, bind_eq_ok_iff, lift_eq_ok_iff,
    PlaneInstruction.ofPayload_of_isReadable (isReadable_swapPayload _ _ _ _ room.ample),
    Except.ok.injEq, exists_eq_left']
  constructor
  · rintro ⟨p, hp, calldata, hcalldata, router, hrouter, rfl⟩
    exact ⟨p, calldata, router, hp, hcalldata, hrouter, rfl⟩
  · rintro ⟨p, calldata, router, hp, hcalldata, hrouter, rfl⟩
    exact ⟨p, hp, calldata, hcalldata, router, hrouter, rfl⟩

/-- **The message of the router offers the amount of the swap.** -/
theorem composeSwap_offers {room : Room} {r : Registry} {swap : Swap} {is : List PlaneInstruction}
    (h : composeSwap room r swap = .ok is) :
    ∃ i, ∃ n : Nat, is = [i] ∧ (n : Int) = swap.amount ∧ i.plane = .evm ∧
      i.offer? = some ⟨none, n⟩ := by
  obtain ⟨p, calldata, router, hp, -, -, rfl⟩ := composeSwap_eq_ok_iff.1 h
  have hamount := amount_of_prepare hp
  refine ⟨_, p.amount, rfl, hamount.1, rfl, ?_⟩
  rw [PlaneInstruction.offer?_carrying (isReadable_swapPayload _ _ _ _ Room.least.ample)]
  exact offer?_swapPayload swap router calldata hamount.2

end Uniswap

end CrossVenue
