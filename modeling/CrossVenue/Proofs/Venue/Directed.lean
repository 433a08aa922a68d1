import CrossVenue.Proofs.Encoding.Words
import CrossVenue.Proofs.Venue.Received

/-!
# Swaps in both directions

A swap on the SVM plane is told to two programs by the places of nineteen accounts.  Whoever reads those
finds one order: what goes in and what comes out are the two tokens of the pool, each with its mint and its
vault, and the accounts of the sender are the ones derived for these mints.

* `RaydiumPool.Ways` : the two directions of a pool;
* `ProgramOrder.read?` : the reader of the two instructions;
* `ProgramOrder.Executes` : an order that a swap asks for;
* `Raydium.swapInstructions_exchanged` : a pool with its tokens exchanged is the same pool;
* `directions_consistent` : what is composed is what the swap asks for, in both directions.
-/

set_option autoImplicit false

namespace CrossVenue

/-! ## The tokens of a pool -/

/-- A token of a pool: its mint, and the vault that holds it. -/
structure Holding where
  mint : Text
  vault : Text
deriving DecidableEq, Repr

namespace RaydiumPool

/-- The first token. -/
def holding0 (pool : RaydiumPool) : Holding := ⟨pool.token0Mint, pool.token0Vault⟩

/-- The second token. -/
def holding1 (pool : RaydiumPool) : Holding := ⟨pool.token1Mint, pool.token1Vault⟩

/-- The two ways through a pool. -/
inductive Ways (pool : RaydiumPool) : Holding → Holding → Prop
  | forth : pool.Ways pool.holding0 pool.holding1
  | back : pool.Ways pool.holding1 pool.holding0

/-- The pool with its tokens exchanged. -/
def exchanged (pool : RaydiumPool) : RaydiumPool :=
  { pool with
    token0Mint := pool.token1Mint
    token1Mint := pool.token0Mint
    token0Vault := pool.token1Vault
    token1Vault := pool.token0Vault }

end RaydiumPool

namespace Raydium

theorem ways_of_sided? {pool : RaydiumPool} {mint : Text} {side : Sided}
    (h : sided? pool mint = some side) :
    pool.Ways ⟨side.inputMint, side.inputVault⟩ ⟨side.outputMint, side.outputVault⟩ := by
  unfold sided? at h
  split at h
  · rename_i hmint
    cases h
    exact hmint ▸ .forth
  · split at h
    · rename_i hmint
      cases h
      exact hmint ▸ .back
    · cases h

/-- The data of a swap end with how much has to come out. -/
theorem slice_swapData_minAmountOut (c : RaydiumConfig) (n least : Nat) :
    Bytes.slice (swapData c n least) 16 8 = Bytes.ofLittleEndian 8 least := by
  have hlength : (c.discriminator.val ++ Bytes.ofLittleEndian 8 n).length = 16 := by
    rw [List.length_append, c.discriminator.property, Bytes.ofLittleEndian_length]
  rw [Bytes.slice, swapData, List.drop_left' hlength]
  exact List.take_of_length_le (Bytes.ofLittleEndian_length 8 least).le

/-- **The sides of a mint do not depend on the order of the tokens**, if those are different. -/
theorem sided?_exchanged {pool : RaydiumPool} (h : pool.token0Mint ≠ pool.token1Mint) (mint : Text) :
    sided? pool.exchanged mint = sided? pool mint := by
  show (if mint = pool.token1Mint then
      some (Sided.mk mint pool.token0Mint pool.token1Vault pool.token0Vault)
    else if mint = pool.token0Mint then
      some (Sided.mk mint pool.token1Mint pool.token0Vault pool.token1Vault)
    else none) = sided? pool mint
  unfold sided?
  by_cases h0 : mint = pool.token0Mint
  · have h1 : mint ≠ pool.token1Mint := h0 ▸ h
    rw [if_neg h1, if_pos h0, if_pos h0]
  · rw [if_neg h0, if_neg h0]

/-- **A pool with its tokens exchanged is the same pool**: every swap on it has the same instructions, or
is rejected for the same reason. -/
theorem swapInstructions_exchanged {pool : RaydiumPool} (h : pool.token0Mint ≠ pool.token1Mint)
    (r : Registry) (sender : Pubkey) (mint : Text) (amountIn minAmountOut : Int) :
    swapInstructions r sender pool.exchanged mint amountIn minAmountOut =
      swapInstructions r sender pool mint amountIn minAmountOut := by
  unfold swapInstructions
  rw [sided?_exchanged h]
  rfl

theorem instructionsOfValues_exchanged {pool : RaydiumPool} (h : pool.token0Mint ≠ pool.token1Mint)
    (r : Registry) (sender : Pubkey) (mint amountIn minAmountOut : Json) :
    instructionsOfValues r sender pool.exchanged mint amountIn minAmountOut =
      instructionsOfValues r sender pool mint amountIn minAmountOut := by
  unfold instructionsOfValues
  simp only [swapInstructions_exchanged h]
  rfl

end Raydium

/-- Joining the halves of signers leaves the instructions as they are. -/
theorem Transaction.decompile_signersRejoined (tx : Transaction) :
    tx.signersRejoined.decompile = tx.decompile := rfl

/-! ## Orders to programs -/

/-- What the two programs of a swap are told. -/
structure ProgramOrder where
  payer : Text
  created : Text
  createdMint : Text
  inputAccount : Text
  outputAccount : Text
  inputVault : Text
  outputVault : Text
  inputMint : Text
  outputMint : Text
  amountIn : Nat
  minAmountOut : Nat
deriving DecidableEq, Repr

namespace ProgramOrder

/-- Reads two instructions by the places of their accounts. -/
def read? : List (Instruction Text Bool) → Option ProgramOrder
  | [⟨_, [payer, created, _, createdMint, _, _], _⟩,
      ⟨_, [_, _, _, _, inputAccount, outputAccount, inputVault, outputVault, _, _, inputMint,
        outputMint, _], data⟩] =>
    some {
      payer := payer.pubkey
      created := created.pubkey
      createdMint := createdMint.pubkey
      inputAccount := inputAccount.pubkey
      outputAccount := outputAccount.pubkey
      inputVault := inputVault.pubkey
      outputVault := outputVault.pubkey
      inputMint := inputMint.pubkey
      outputMint := outputMint.pubkey
      amountIn := (Bytes.slice data 8 8).littleEndian
      minAmountOut := (Bytes.slice data 16 8).littleEndian }
  | _ => none

/-- The two instructions that tell an order. -/
def instructions (o : ProgramOrder) (c : RaydiumConfig) (pool : RaydiumPool) :
    List (Instruction Text Bool) :=
  [Raydium.createAccount c o.payer o.created o.createdMint,
    Raydium.swapBaseInput c pool o.payer o.inputAccount o.outputAccount
      ⟨o.inputMint, o.outputMint, o.inputVault, o.outputVault⟩
      (Raydium.swapData c o.amountIn o.minAmountOut)]

/-- **An order is read from the places of its accounts**, if words hold its amounts. -/
theorem read?_instructions {o : ProgramOrder} (hin : o.amountIn ≤ maxWord64)
    (hout : o.minAmountOut ≤ maxWord64) (c : RaydiumConfig) (pool : RaydiumPool) :
    read? (o.instructions c pool) = some o := by
  have hword : ∀ n ≤ maxWord64, (Bytes.ofLittleEndian 8 n).littleEndian = n := fun n hn =>
    Bytes.littleEndian_of_lt (Nat.lt_of_le_of_lt hn (by decide))
  have hfirst := Raydium.slice_swapData c o.amountIn o.minAmountOut
  have hsecond := Raydium.slice_swapData_minAmountOut c o.amountIn o.minAmountOut
  show some { o with
    amountIn := (Bytes.slice (Raydium.swapData c o.amountIn o.minAmountOut) 8 8).littleEndian
    minAmountOut := (Bytes.slice (Raydium.swapData c o.amountIn o.minAmountOut) 16 8).littleEndian } = _
  rw [hfirst, hsecond, hword _ hin, hword _ hout]

/-- An order that a swap asks for, from a sender on a pool. -/
structure Executes (o : ProgramOrder) (r : Registry) (swap : Swap) (sender : Pubkey)
    (pool : RaydiumPool) : Prop where
  payer : o.payer = sender.toText
  /-- The account that is created is the one that the output goes to. -/
  created : o.created = o.outputAccount ∧ o.createdMint = o.outputMint
  /-- Each mint stands with its vault. -/
  ways : pool.Ways ⟨o.inputMint, o.inputVault⟩ ⟨o.outputMint, o.outputVault⟩
  inputMint : o.inputMint = r.svmMint swap.denom
  inputAccount : ∃ key, Raydium.tokenAccountOf r.raydium sender o.inputMint = .ok key ∧
    o.inputAccount = key.toText
  outputAccount : ∃ key, Raydium.tokenAccountOf r.raydium sender o.outputMint = .ok key ∧
    o.outputAccount = key.toText
  /-- The amount is rounded down to whole units of the mint that goes in. -/
  amountIn : (o.amountIn : Int) = swap.amount / r.decimalFactor o.inputMint
  within : (o.amountIn : Int) * r.decimalFactor o.inputMint ≤ swap.amount ∧
    (o.amountIn : Int) ≤ swap.amount
  held : o.amountIn ≤ maxWord64
  minAmountOut : o.minAmountOut = 0

end ProgramOrder

namespace Raydium

/-- **What a request is compiled to tells the order that the swap asks for.** -/
theorem requestInstructions_executes {r : Registry} {swap : Swap} {ixs : List (Instruction Text Bool)}
    (h : requestInstructions r swap = .ok ixs) :
    ∃ account sender pool, ∃ order : ProgramOrder, nonEmpty? swap.senderSvm = some account ∧
      Pubkey.ofText account = .ok sender ∧ r.raydiumPool swap.pair = .ok pool ∧
      order.Executes r swap sender pool ∧ ixs = order.instructions r.raydium pool := by
  obtain ⟨account, sender, pool, n, haccount, hsender, hpool, ⟨hn, -⟩, hswap⟩ :=
    requestInstructions_eq_ok_iff.1 h
  obtain ⟨m, least, side, input, output, ⟨hm, hle⟩, ⟨hleast, -⟩, hside, hinput, houtput, rfl⟩ :=
    swapInstructions_eq_ok_iff.1 hswap
  have hmint := sided?_inputMint hside
  have hfactor : m * r.decimalFactor side.inputMint ≤ n := by
    rw [hmint, Int.ofNat_inj.1 hm]
    exact Nat.div_mul_le_self _ _
  refine ⟨account, sender, pool,
    { payer := sender.toText
      created := output.toText
      createdMint := side.outputMint
      inputAccount := input.toText
      outputAccount := output.toText
      inputVault := side.inputVault
      outputVault := side.outputVault
      inputMint := side.inputMint
      outputMint := side.outputMint
      amountIn := m
      minAmountOut := least }, haccount, hsender, hpool, ?_, rfl⟩
  exact
    { payer := rfl
      created := ⟨rfl, rfl⟩
      ways := ways_of_sided? hside
      inputMint := hmint
      inputAccount := ⟨input, hinput, rfl⟩
      outputAccount := ⟨output, houtput, rfl⟩
      amountIn := by
        rw [hm, ← hn, hmint]
        rfl
      within := by
        rw [← hn]
        refine ⟨by exact_mod_cast hfactor, ?_⟩
        rw [hm]
        exact Int.ofNat_le.2 (Nat.div_le_self _ _)
      held := hle
      minAmountOut := Int.ofNat_inj.1 hleast }

/-- **The message of a composed swap is a transaction that tells the order.** -/
theorem composeSwap_executes {writing : Room} {r : Registry} {budget : Json} {swap : Swap}
    {is : List PlaneInstruction} (h : composeSwap writing r budget swap = .ok is) :
    ∃ i body tx account sender pool, ∃ order : ProgramOrder, is = [i] ∧ i.plane = .svm ∧
      (∀ reading, i.payload reading = .ok body) ∧ Transaction.reader body = .accepted tx ∧
      nonEmpty? swap.senderSvm = some account ∧ Pubkey.ofText account = .ok sender ∧
      r.raydiumPool swap.pair = .ok pool ∧ order.Executes r swap sender pool ∧
      tx.decompile = some (order.instructions r.raydium pool) := by
  obtain ⟨sent, hsent, rfl⟩ := composeSwap_eq_ok_iff.1 h
  obtain ⟨body, hbody, htx⟩ :=
    (swapTransaction_received hsent).bytes (swapTransaction_isWritable hsent).2
  obtain ⟨ixs, units, hixs, -, -, rfl⟩ := swapTransaction_eq_ok_iff.1 hsent
  obtain ⟨account, sender, pool, order, haccount, hsender, hpool, horder, rfl⟩ :=
    requestInstructions_executes hixs
  have hdecompiled := decompile_compile (order.instructions r.raydium pool) [swap.sender] units
  rw [← Transaction.decompile_signersRejoined] at hdecompiled
  exact ⟨_, body, _, account, sender, pool, order, rfl, rfl,
    fun reading => PlaneInstruction.payload_of_readBytes (hbody reading).2, htx, haccount, hsender, hpool,
    horder, hdecompiled⟩

end Raydium

/-- **Swaps are encoded alike in both directions.**  The message of every composed swap is a transaction of
two instructions, which tell one order: the account that the output goes to is created, each mint stands
with its vault, the accounts of the sender are those of the two mints, and the data hold the amount in
whole units of the mint that goes in.  On a pool of two mints every swap has the same instructions, or is
rejected for the same reason, as on the pool with its tokens exchanged. -/
theorem directions_consistent :
    (∀ (writing : Room) (r : Registry) (budget : Json) (swap : Swap) (is : List PlaneInstruction),
      Raydium.composeSwap writing r budget swap = .ok is →
      ∃ i body tx account sender pool, ∃ order : ProgramOrder, is = [i] ∧ i.plane = .svm ∧
        (∀ reading, i.payload reading = .ok body) ∧ Transaction.reader body = .accepted tx ∧
        nonEmpty? swap.senderSvm = some account ∧ Pubkey.ofText account = .ok sender ∧
        r.raydiumPool swap.pair = .ok pool ∧ order.Executes r swap sender pool ∧
        tx.decompile = some (order.instructions r.raydium pool)) ∧
    (∀ (order : ProgramOrder) (c : RaydiumConfig) (pool : RaydiumPool), order.amountIn ≤ maxWord64 →
      order.minAmountOut ≤ maxWord64 →
      ProgramOrder.read? (order.instructions c pool) = some order) ∧
    ∀ (r : Registry) (sender : Pubkey) (pool : RaydiumPool), pool.token0Mint ≠ pool.token1Mint →
      (∀ (mint : Text) (amountIn minAmountOut : Int),
        Raydium.swapInstructions r sender pool mint amountIn minAmountOut =
          Raydium.swapInstructions r sender pool.exchanged mint amountIn minAmountOut) ∧
      ∀ mint amountIn minAmountOut : Json,
        Raydium.instructionsOfValues r sender pool mint amountIn minAmountOut =
          Raydium.instructionsOfValues r sender pool.exchanged mint amountIn minAmountOut := by
  refine ⟨fun writing r budget swap is h => Raydium.composeSwap_executes h,
    fun order c pool hin hout => ProgramOrder.read?_instructions hin hout c pool,
    fun r sender pool h => ⟨fun mint amountIn minAmountOut => ?_, fun mint amountIn minAmountOut => ?_⟩⟩
  · exact (Raydium.swapInstructions_exchanged h r sender mint amountIn minAmountOut).symm
  · exact (Raydium.instructionsOfValues_exchanged h r sender mint amountIn minAmountOut).symm

open Raydium in
/-- The sale of ether is told as five units of ether for tether, which is the second token of the pool and
may as well be the first. -/
theorem etherSale_directed :
    ∃ i body tx account sender pool, ∃ order : ProgramOrder,
      composeSwap .least .builtin (.int 1000) etherSale = .ok [i] ∧
      (∀ reading, i.payload reading = .ok body) ∧ Transaction.reader body = .accepted tx ∧
      nonEmpty? etherSale.senderSvm = some account ∧
      Pubkey.ofText account = .ok sender ∧ Registry.builtin.raydiumPool "eth-usdt" = .ok pool ∧
      tx.decompile = some (order.instructions Registry.builtin.raydium pool) ∧
      ProgramOrder.read? (order.instructions Registry.builtin.raydium pool) = some order ∧
      order.inputMint = etherMint ∧ order.amountIn = 5 ∧ order.minAmountOut = 0 ∧
      swapInstructions .builtin sender pool tetherMint 5 0 =
        swapInstructions .builtin sender pool.exchanged tetherMint 5 0 := by
  obtain ⟨sent, hsent⟩ := etherSale_composed
  have hcomposed : composeSwap .least .builtin (.int 1000) etherSale =
      .ok [.carrying .svm PlaneInstruction.invokeMachine sent.toJson] :=
    composeSwap_eq_ok_iff.2 ⟨sent, hsent, rfl⟩
  obtain ⟨i, body, tx, account, sender, pool, order, his, -, hbody, htx, haccount, hsender, hpool, h,
    hdecompiled⟩ := directions_consistent.1 _ _ _ _ _ hcomposed
  rw [his] at hcomposed
  have hmint : order.inputMint = etherMint := h.inputMint
  have hfactor : Registry.builtin.decimalFactor etherMint = 1000000000 := by decide +kernel
  have hamount : order.amountIn = 5 := by
    have hin := h.amountIn
    rw [hmint, hfactor] at hin
    exact Int.ofNat_inj.1 hin
  have hpools : (Registry.builtin.raydiumPool "eth-usdt").map (fun p => (p.token0Mint, p.token1Mint)) =
      .ok (etherMint, tetherMint) := by
    decide +kernel
  have hmints : pool.token0Mint ≠ pool.token1Mint := by
    obtain ⟨_, hfound, hpair⟩ := map_eq_ok_iff.1 hpools
    obtain rfl : _ = pool := Except.ok.inj (hfound.symm.trans hpool)
    obtain ⟨hfirst, hsecond⟩ := Prod.mk.inj hpair
    rw [hfirst, hsecond]
    decide +kernel
  have hleast : order.minAmountOut ≤ maxWord64 := h.minAmountOut ▸ Nat.zero_le _
  exact ⟨i, body, tx, account, sender, pool, order, hcomposed, hbody, htx, haccount, hsender, hpool,
    hdecompiled, directions_consistent.2.1 order _ pool h.held hleast, hmint, hamount, h.minAmountOut,
    (directions_consistent.2.2 .builtin sender pool hmints).1 _ _ _⟩

end CrossVenue
