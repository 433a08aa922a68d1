import CrossVenue.Proofs.Encoding.Words
import CrossVenue.Proofs.Venue.Offer
import CrossVenue.Registry.Builtin
import CrossVenue.Venue.Raydium

/-!
# What a swap transaction offers

A swap on the SVM plane is a transaction of two instructions, in whose units amounts are given: the
amount of the request is divided by the factor of the mint that goes in.

* `swapInstructions_eq_ok_iff`, `requestInstructions_eq_ok_iff` : the two instructions;
* `swapTransaction_eq_ok_iff` : the transaction of both;
* `offerOf?_compile`, `swapTransaction_eq_ok` : what it offers;
* `composeSwap_eq_ok_iff`, `composeSwap_offers` : what a swap is composed to, and what its message offers.
-/

set_option autoImplicit false

namespace CrossVenue.Raydium

/-- **The two instructions of a swap**, and what they need. -/
theorem swapInstructions_eq_ok_iff {r : Registry} {sender : Pubkey} {pool : RaydiumPool}
    {inputMint : Text} {amountIn minAmountOut : Int} {ixs : List (Instruction Text Bool)} :
    swapInstructions r sender pool inputMint amountIn minAmountOut = .ok ixs ↔
      ∃ (n least : Nat) (side : Sided) (input output : Pubkey),
        ((n : Int) = amountIn ∧ n ≤ maxWord64) ∧
        ((least : Int) = minAmountOut ∧ least ≤ maxWord64) ∧
        sided? pool inputMint = some side ∧
        tokenAccountOf r.raydium sender side.inputMint = .ok input ∧
        tokenAccountOf r.raydium sender side.outputMint = .ok output ∧
        ixs = [createAccount r.raydium sender.toText output.toText side.outputMint,
          swapBaseInput r.raydium pool sender.toText input.toText output.toText side
            (swapData r.raydium n least)] := by
  simp only [swapInstructions, bind_eq_ok_iff, checkAmount_eq_ok_iff]
  constructor
  · rintro ⟨n, hn, least, hl, h⟩
    split at h
    · cases h
    · rename_i side hside
      simp only [bind_eq_ok_iff, Except.ok.injEq] at h
      obtain ⟨input, hi, output, ho, rfl⟩ := h
      exact ⟨n, least, side, input, output, hn, hl, hside, hi, ho, rfl⟩
  · rintro ⟨n, least, side, input, output, hn, hl, hside, hi, ho, rfl⟩
    refine ⟨n, hn, least, hl, ?_⟩
    simp only [hside, bind_eq_ok_iff, Except.ok.injEq]
    exact ⟨input, hi, output, ho, rfl⟩

theorem sided?_inputMint {pool : RaydiumPool} {mint : Text} {side : Sided}
    (h : sided? pool mint = some side) : side.inputMint = mint := by
  unfold sided? at h
  split at h
  · cases h
    rfl
  · split at h
    · cases h
      rfl
    · cases h

/-- The data of a swap hold the amount after the eight bytes that select it. -/
theorem slice_swapData (c : RaydiumConfig) (n least : Nat) :
    Bytes.slice (swapData c n least) 8 8 = Bytes.ofLittleEndian 8 n := by
  have hn : (Bytes.ofLittleEndian 8 n).length = 8 := Bytes.ofLittleEndian_length 8 n
  rw [Bytes.slice, swapData, List.append_assoc, List.drop_left' c.discriminator.property,
    List.take_left' hn]

theorem offerOf?_compile (c : RaydiumConfig) (pool : RaydiumPool) (payer input output : Text)
    (side : Sided) {n : Nat} (hn : n ≤ maxWord64) (least : Nat) (create : Instruction Text Bool)
    (signers : List Text) (budget : Nat) :
    offerOf? (compile
      [create, swapBaseInput c pool payer input output side (swapData c n least)] signers budget) =
        some ⟨some side.inputMint, n⟩ := by
  have hword := @Bytes.littleEndian_of_lt 8 n (Nat.lt_of_le_of_lt hn (by decide))
  rw [offerOf?, decompile_compile]
  show some (SwapOffer.mk (some side.inputMint) (Bytes.slice (swapData c n least) 8 8).littleEndian) = _
  rw [slice_swapData, hword]

/-- The message of a transaction offers what the transaction does. -/
theorem offer?_compile {ixs : List (Instruction Text Bool)} {budget : Nat} {offer : SwapOffer}
    (hkeys : ∀ ix ∈ ixs, ∀ a ∈ ix.addresses, IsKey a)
    (hlen : (ixs.flatMap Instruction.addresses).length < Number.tooLong) (hb : budget ≤ maxWord64)
    (h : ∀ signers, offerOf? (compile ixs signers budget) = some offer) (signers : List Text)
    (action : Text) :
    (PlaneInstruction.carrying .svm action (compile ixs signers budget).toJson).offer? =
      some offer := by
  have hread := Transaction.isReadable_toJson (compile_isWritable hlen signers budget)
    (Number.isWritable_of_le_maxWord64 hb) Room.least.ample
  rw [PlaneInstruction.offer?_carrying hread, Transaction.rejoined_toJson,
    rejoined_compile hkeys]
  show (Transaction.reader _).toOption.bind offerOf? = _
  rw [Transaction.reader_toJson hb]
  exact h _

/-- **What a swap request asks for.** -/
theorem requestInstructions_eq_ok_iff {r : Registry} {swap : Swap}
    {ixs : List (Instruction Text Bool)} :
    requestInstructions r swap = .ok ixs ↔
      ∃ (account : Text) (sender : Pubkey) (pool : RaydiumPool) (n : Nat),
        nonEmpty? swap.senderSvm = some account ∧ Pubkey.ofText account = .ok sender ∧
        r.raydiumPool swap.pair = .ok pool ∧ ((n : Int) = swap.amount ∧ n ≤ maxSwapAmount) ∧
        swapInstructions r sender pool (r.svmMint swap.denom)
          ((n / r.decimalFactor (r.svmMint swap.denom) : Nat) : Int) 0 = .ok ixs := by
  unfold requestInstructions
  cases haccount : nonEmpty? swap.senderSvm with
  | none =>
    simp only [reduceCtorEq, false_and, exists_false, iff_false]
    intro h
    cases h
  | some account =>
    simp only [bind_eq_ok_iff, checkAmount_eq_ok_iff, Option.some.injEq]
    constructor
    · rintro ⟨sender, hsender, pool, hpool, n, hn, h⟩
      exact ⟨account, sender, pool, n, rfl, hsender, hpool, hn, h⟩
    · rintro ⟨_, sender, pool, n, rfl, hsender, hpool, hn, h⟩
      exact ⟨sender, hsender, pool, hpool, n, hn, h⟩

/-- **What the transaction of a swap is compiled of.** -/
theorem swapTransaction_eq_ok_iff {r : Registry} {budget : Json} {swap : Swap} {tx : Transaction} :
    swapTransaction r budget swap = .ok tx ↔
      ∃ (ixs : List (Instruction Text Bool)) (units : Nat), requestInstructions r swap = .ok ixs ∧
        (∀ ix ∈ ixs, ∀ a ∈ ix.addresses, IsKey a) ∧ readBudget budget = .ok units ∧
        tx = compile ixs [swap.sender] units := by
  simp only [swapTransaction, bind_eq_ok_iff, lift_eq_ok_iff, build_written_iff]
  constructor
  · rintro ⟨ixs, hixs, hkeys, units, hunits, rfl⟩
    exact ⟨ixs, units, hixs, hkeys, hunits, rfl⟩
  · rintro ⟨ixs, units, hixs, hkeys, hunits, rfl⟩
    exact ⟨ixs, hixs, hkeys, units, hunits, rfl⟩

/-- **The transaction of a swap**: two instructions of written addresses, signed by the sender, that offer
the amount of the swap in units of its mint. -/
theorem swapTransaction_eq_ok {r : Registry} {budget : Json} {swap : Swap} {tx : Transaction}
    (h : swapTransaction r budget swap = .ok tx) :
    ∃ (ixs : List (Instruction Text Bool)) (units n : Nat), (n : Int) = swap.amount ∧
      tx = compile ixs [swap.sender] units ∧ units ≤ maxWord64 ∧
      (∀ ix ∈ ixs, ∀ a ∈ ix.addresses, IsKey a) ∧
      (ixs.flatMap Instruction.addresses).length < Number.tooLong ∧
      ∀ signers, offerOf? (compile ixs signers units) =
        some ⟨some (r.svmMint swap.denom), n / r.decimalFactor (r.svmMint swap.denom)⟩ := by
  obtain ⟨ixs, units, hixs, hkeys, hunits, rfl⟩ := swapTransaction_eq_ok_iff.1 h
  obtain ⟨-, sender, pool, n, -, -, -, ⟨hn, -⟩, hswap⟩ := requestInstructions_eq_ok_iff.1 hixs
  obtain ⟨m, least, side, input, output, ⟨hm, hle⟩, -, hside, -, -, rfl⟩ :=
    swapInstructions_eq_ok_iff.1 hswap
  have hlen : 21 < Number.tooLong := by decide +kernel
  refine ⟨_, units, n, hn, rfl, (readBudget_eq_ok_iff.1 hunits).2, hkeys, hlen, fun signers => ?_⟩
  rw [offerOf?_compile _ _ _ _ _ _ hle, sided?_inputMint hside, Int.natCast_inj.1 hm]

/-- There is room for the transaction of a swap, and it can be written. -/
theorem ofPayload_of_swapTransaction {r : Registry} {budget : Json} {swap : Swap} {tx : Transaction}
    (h : swapTransaction r budget swap = .ok tx) (room : Room) (plane : Plane) (action : Text) :
    PlaneInstruction.ofPayload room plane action tx.toJson = .ok (.carrying plane action tx.toJson) := by
  obtain ⟨ixs, units, -, -, rfl, hunits, -, hlen, -⟩ := swapTransaction_eq_ok h
  exact PlaneInstruction.ofPayload_of_isReadable (Transaction.isReadable_toJson
    (compile_isWritable hlen [swap.sender] units) (Number.isWritable_of_le_maxWord64 hunits) room.ample)

/-- **What a swap is composed to.** -/
theorem composeSwap_eq_ok_iff {room : Room} {r : Registry} {budget : Json} {swap : Swap}
    {is : List PlaneInstruction} :
    composeSwap room r budget swap = .ok is ↔
      ∃ tx, swapTransaction r (budgetOr r budget) swap = .ok tx ∧
        is = [.carrying .svm PlaneInstruction.invokeMachine tx.toJson] := by
  simp only [composeSwap, bind_eq_ok_iff, Except.ok.injEq]
  refine exists_congr fun tx => and_congr_right fun htx => ?_
  rw [ofPayload_of_swapTransaction htx]
  simp only [Except.ok.injEq, exists_eq_left']
  exact eq_comm

/-- **The message of the SVM plane offers the amount of the swap in units of its mint.** -/
theorem composeSwap_offers {room : Room} {r : Registry} {budget : Json} {swap : Swap}
    {is : List PlaneInstruction} (h : composeSwap room r budget swap = .ok is) :
    ∃ i, ∃ n : Nat, is = [i] ∧ (n : Int) = swap.amount ∧ i.plane = .svm ∧
      i.offer? = some ⟨some (r.svmMint swap.denom),
        n / r.decimalFactor (r.svmMint swap.denom)⟩ := by
  obtain ⟨_, htx, rfl⟩ := composeSwap_eq_ok_iff.1 h
  obtain ⟨ixs, units, n, hn, rfl, hunits, hkeys, hlen, hoffer⟩ := swapTransaction_eq_ok htx
  exact ⟨_, n, rfl, hn, rfl, offer?_compile hkeys hlen hunits hoffer _ _⟩

/-! ## A sale of ether -/

/-- A request to sell five units of ether, and some that the SVM plane does not hold. -/
def etherSale : Swap :=
  { venue := "raydium"
    pair := "eth-usdt"
    sender := "lux1trader"
    denom := "eth"
    amount := 5000000007
    senderSvm := some "4vJ9JU1bJJE96FWSJKvHsmmFADCg4gpZQff4P3bkLKi" }

theorem etherSale_composed : ∃ tx, swapTransaction .builtin (.int 1000) etherSale = .ok tx := by
  have hok : (swapTransaction .builtin (.int 1000) etherSale).map (fun _ => ()) = .ok () := by
    decide +kernel
  obtain ⟨tx, htx, -⟩ := map_eq_ok_iff.1 hok
  exact ⟨tx, htx⟩

end CrossVenue.Raydium
