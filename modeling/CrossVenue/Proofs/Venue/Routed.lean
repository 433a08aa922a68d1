import CrossVenue.Proofs.Venue.Calldata
import CrossVenue.Proofs.Venue.Decoded
import CrossVenue.Proofs.Venue.Received

/-!
# Orders of the router

The message of a swap on the EVM plane states its amount twice: below zero in a call of the router, and as
a word beside the call.  Whoever reads it finds one order: the pool, the amount and the direction that the
swap asks for, with a limit at the end of the prices to which the trade moves.

* `Uniswap.order?` : the reader of such messages;
* `RouterOrder.Executes` : an order that a swap asks for;
* `Uniswap.composeSwap_isOk_iff` : when an order is composed;
* `orders_executed` : what is composed is what the swap asks for.
-/

set_option autoImplicit false

namespace CrossVenue

/-- What the router is told. -/
structure RouterOrder where
  sender : Text
  router : Bytes
  call : RouterCall
  /-- The word beside the call. -/
  input : Bytes
deriving DecidableEq, Repr

namespace Uniswap

/-- Reads the message of the router with the call in it. -/
def order? (body : Json) : Option RouterOrder := do
  let sender ← body.textAt? ["sender"]
  let router ← Base64.decode? (← body.textAt? ["contract_address"])
  let calldata ← Base64.decode? (← body.textAt? ["calldata"])
  let input ← Base64.decode? (← body.textAt? ["input_amount"])
  let call ← RouterCall.decode? calldata
  some ⟨sender, router, call, input⟩

theorem order?_swapPayload (swap : Swap) (router : Bytes) {calldata : Bytes} {call : RouterCall} (n : Nat)
    (h : RouterCall.decode? calldata = some call) :
    order? (swapPayload swap router calldata n).rejoined =
      some ⟨swap.sender.rejoined, router, call, Bytes.ofBigEndian 32 n⟩ := by
  simp [order?, swapPayload, Json.rejoined, Json.rejoinedFields, Json.textAt?, Json.at?, Json.field?,
    List.lookup_cons, Text.ofString_beq, textOf?, Base64.decode?_encode, h]

/-! ## Direction and limit -/

theorem zeroForOne?_eq_some_iff {key : UniswapPoolKey} {token : Text} {zeroForOne : Bool} :
    zeroForOne? key token = some zeroForOne ↔
      (zeroForOne = true ↔ Text.lower token = Text.lower key.currency0) ∧
        (zeroForOne = false → Text.lower token = Text.lower key.currency1) := by
  unfold zeroForOne?
  by_cases h0 : Text.lower token = Text.lower key.currency0
  · cases zeroForOne <;> simp [h0]
  · by_cases h1 : Text.lower token = Text.lower key.currency1
    · have hother : Text.lower key.currency1 ≠ Text.lower key.currency0 := h1 ▸ h0
      cases zeroForOne <;> simp [h1, hother]
    · cases zeroForOne <;> simp [h0, h1]

/-- The limit lies inside the bounds of ticks. -/
theorem priceLimit_inside (zeroForOne : Bool) :
    minSqrtPrice < priceLimit zeroForOne ∧ priceLimit zeroForOne < maxSqrtPrice := by
  cases zeroForOne <;> decide

/-- A trade may move the price as far as it can: no price inside the bounds is beyond the limit. -/
theorem priceLimit_furthest (zeroForOne : Bool) {price : Nat} (hlow : minSqrtPrice < price)
    (hhigh : price < maxSqrtPrice) :
    if zeroForOne then priceLimit zeroForOne ≤ price else price ≤ priceLimit zeroForOne := by
  cases zeroForOne with
  | false => exact Nat.le_sub_one_of_lt hhigh
  | true => exact hlow

/-- **Words hold every amount that is taken**, below zero, and the limits. -/
theorem heldByWords_priceLimit {n : Nat} (hn : n ≤ maxWord) (zeroForOne : Bool) :
    HeldByWords (-(n : Int)) (priceLimit zeroForOne) := by
  have hlimit : priceLimit zeroForOne ≤ maxWord160 := by
    cases zeroForOne <;> decide
  have hless : (n : Int) ≤ maxWord := Int.ofNat_le.2 hn
  refine ⟨⟨?_, ?_⟩, Int.natCast_nonneg _, Int.ofNat_le.2 hlimit⟩
  · unfold minWord
    omega
  · omega

theorem exists_swapCalldata {key : UniswapPoolKey} {selector : Text} {c : RouterCall} {n : Nat}
    (h : c.Names key selector) (hn : n ≤ maxWord) (zeroForOne : Bool) :
    ∃ bs, swapCalldata key zeroForOne (-(n : Int)) (priceLimit zeroForOne) selector [] = .ok bs :=
  ⟨_, (swapCalldata_eq h _ _ _ _).trans (if_pos (heldByWords_priceLimit hn zeroForOne))⟩

/-! ## Composed orders -/

/-- **An order is composed whenever its texts are read**: no amount that is taken fails later. -/
theorem composeSwap_isOk_iff {writing : Room} {r : Registry} {swap : Swap} :
    (∃ is, composeSwap writing r swap = .ok is) ↔
      ∃ p, prepare r swap = .ok p ∧ (∃ c : RouterCall, c.Names p.key r.uniswap.selector) ∧
        ∃ router, evmAddressBytes p.router = .ok router := by
  constructor
  · rintro ⟨is, h⟩
    obtain ⟨p, calldata, router, hp, hcalldata, hrouter, -⟩ := composeSwap_eq_ok_iff.1 h
    exact ⟨p, hp, exists_names_of_swapCalldata hcalldata, router, hrouter⟩
  · rintro ⟨p, hp, ⟨c, hnames⟩, router, hrouter⟩
    obtain ⟨calldata, hcalldata⟩ :=
      exists_swapCalldata hnames (amount_of_prepare hp).2 p.zeroForOne
    exact ⟨_, composeSwap_eq_ok_iff.2 ⟨p, calldata, router, hp, hcalldata, hrouter, rfl⟩⟩

end Uniswap

/-- An order that a swap asks for, on the pool of a key, when its denom is a token. -/
structure RouterOrder.Executes (o : RouterOrder) (r : Registry) (swap : Swap) (key : UniswapPoolKey)
    (token : Text) : Prop where
  sender : o.sender = swap.sender.rejoined
  router : ∃ router, r.uniswap.router = some router ∧ evmAddressBytes router = .ok o.router
  names : o.call.Names key r.uniswap.selector
  /-- The call sells exactly the amount. -/
  amount : o.call.amount = -swap.amount
  /-- The word beside it is the amount too. -/
  input : o.input.length = 32 ∧ (o.input.bigEndian : Int) = swap.amount
  currency0 : o.call.zeroForOne = true ↔ Text.lower token = Text.lower key.currency0
  currency1 : o.call.zeroForOne = false → Text.lower token = Text.lower key.currency1
  inside : Uniswap.minSqrtPrice < o.call.priceLimit ∧ o.call.priceLimit < Uniswap.maxSqrtPrice
  /-- No price inside the bounds is beyond the limit. -/
  furthest : ∀ price : Nat, Uniswap.minSqrtPrice < price → price < Uniswap.maxSqrtPrice →
    if o.call.zeroForOne then o.call.priceLimit ≤ price else price ≤ o.call.priceLimit
  hookData : o.call.hookData = []

namespace Uniswap

/-- **The message of a composed swap is read as the order that the swap asks for.** -/
theorem composeSwap_executes {writing : Room} {r : Registry} {swap : Swap} {is : List PlaneInstruction}
    (h : composeSwap writing r swap = .ok is) :
    ∃ i body order key token, is = [i] ∧ i.plane = .evm ∧ (∀ reading, i.payload reading = .ok body) ∧
      order? body = some order ∧ r.uniswapPool swap.pair = .ok key ∧
      r.evmAddress swap.denom = .ok token ∧ order.Executes r swap key token := by
  obtain ⟨p, calldata, router, hp, hcalldata, hrouter, rfl⟩ := composeSwap_eq_ok_iff.1 h
  obtain ⟨hamount, hle⟩ := amount_of_prepare hp
  obtain ⟨htext, hkey, -, token, htoken, hdirection⟩ := prepare_eq_ok_iff.1 hp
  obtain ⟨hcurrency0, hcurrency1⟩ := zeroForOne?_eq_some_iff.1 hdirection
  obtain ⟨hheld, call, hnames, hflag, hsold, hlimit, hdata, rfl⟩ := swapCalldata_eq_ok_iff.1 hcalldata
  have hlimit' : call.priceLimit = priceLimit p.zeroForOne := Int.ofNat_inj.1 hlimit
  have hread : RouterCall.decode? call.encode = some call := by
    rw [← hsold, ← hlimit] at hheld
    exact (hnames.sized hheld).decode?_encode (by rw [hdata]; decide)
  refine ⟨_, _, _, p.key, token, rfl, rfl, fun reading => PlaneInstruction.payload_of_readBytes
      (Json.readBytes_encode (isReadable_swapPayload swap router call.encode p.amount reading.ample)),
    order?_swapPayload swap router p.amount hread, hkey, htoken, ?_⟩
  exact
    { sender := rfl
      router := ⟨p.router, (nonEmpty?_eq_some_iff.1 htext).1, hrouter⟩
      names := hnames
      amount := hsold.trans (congrArg Neg.neg hamount)
      input := by
        refine ⟨Bytes.ofBigEndian_length _ _, ?_⟩
        have hword : Bytes.bigEndian (Bytes.ofBigEndian 32 p.amount) = p.amount :=
          Bytes.bigEndian_of_lt (Nat.lt_of_le_of_lt hle (by decide))
        rw [hword, hamount]
      currency0 := hflag ▸ hcurrency0
      currency1 := hflag ▸ hcurrency1
      inside := hlimit' ▸ priceLimit_inside p.zeroForOne
      furthest := fun price hlow hhigh => by
        rw [hlimit', hflag]
        exact priceLimit_furthest p.zeroForOne hlow hhigh
      hookData := hdata }

end Uniswap

/-- **Orders say what their swaps ask for.**  The message of every composed swap is read as an order whose
call names the pool of the pair, sells exactly the amount of the swap, and sells the currency that the
denom is; the word beside the call is the same amount.  An order is composed whenever a swap is taken and
the texts of the registry are read, since words hold every amount that passes the check. -/
theorem orders_executed :
    (∀ (writing : Room) (r : Registry) (swap : Swap) (is : List PlaneInstruction),
      Uniswap.composeSwap writing r swap = .ok is →
      ∃ i body order key token, is = [i] ∧ i.plane = .evm ∧ (∀ reading, i.payload reading = .ok body) ∧
        Uniswap.order? body = some order ∧ r.uniswapPool swap.pair = .ok key ∧
        r.evmAddress swap.denom = .ok token ∧ order.Executes r swap key token) ∧
    (∀ (writing : Room) (r : Registry) (swap : Swap),
      (∃ is, Uniswap.composeSwap writing r swap = .ok is) ↔
      ∃ p, Uniswap.prepare r swap = .ok p ∧
        (∃ c : RouterCall, c.Names p.key r.uniswap.selector) ∧
        ∃ router, evmAddressBytes p.router = .ok router) ∧
    ∀ (venue label selector : Text) (key : UniswapPoolKey) (c : RouterCall) (zeroForOne : Bool)
      (amount : Int) (n : Nat), checkAmount venue label amount maxWord = .ok n → c.Names key selector →
      ∃ bs, swapCalldata key zeroForOne (-(n : Int)) (Uniswap.priceLimit zeroForOne) selector [] =
        .ok bs := by
  refine ⟨fun writing r swap is h => Uniswap.composeSwap_executes h,
    fun writing r swap => Uniswap.composeSwap_isOk_iff,
    fun venue label selector key c zeroForOne amount n hn hnames => ?_⟩
  exact Uniswap.exists_swapCalldata hnames (checkAmount_eq_ok_iff.1 hn).2 zeroForOne

/-- The sale of ether sells the first currency, in the call and in the word beside it.  The greatest amount
that is taken can be sold on the same pool. -/
theorem hostileSale_executed :
    (∃ i body order, Uniswap.composeSwap .least routedRegistry hostileSale = .ok [i] ∧
      (∀ reading, i.payload reading = .ok body) ∧ Uniswap.order? body = some order ∧
      order.call.zeroForOne = true ∧ order.call.amount = -5 ∧ order.input.bigEndian = 5) ∧
    ∃ key bs, routedRegistry.uniswapPool "eth-usdt" = .ok key ∧
      swapCalldata key true (-(maxWord : Int)) (Uniswap.priceLimit true) routedRegistry.uniswap.selector
        [] = .ok bs := by
  have hok : (Uniswap.composeSwap .least routedRegistry hostileSale).map (fun _ => ()) = .ok () := by
    decide +kernel
  obtain ⟨is, hswap, -⟩ := map_eq_ok_iff.1 hok
  obtain ⟨i, body, order, key, token, rfl, -, hbody, horder, hkey, htoken, h⟩ :=
    orders_executed.1 _ _ _ _ hswap
  have hinput : (order.input.bigEndian : Int) = 5 := h.input.2
  refine ⟨⟨i, body, order, hswap, hbody, horder, h.currency0.2 ?_, h.amount, by omega⟩, ?_⟩
  · cases hkey
    cases htoken
    rfl
  · have htaken : checkAmount "uniswap" "swap amount" maxWord maxWord = .ok maxWord := by
      decide +kernel
    obtain ⟨bs, hbs⟩ := orders_executed.2.2 _ _ _ key order.call true _ _ htaken h.names
    exact ⟨key, bs, hkey, hbs⟩

end CrossVenue
