import CrossVenue.Proofs.Json.Parts
import CrossVenue.Proofs.Transaction.Keys
import CrossVenue.Proofs.Venue.Raydium

/-!
# Transactions as they are received

A transaction leaves as JSON, by itself or as the body of an instruction, which is base64.  Whoever reads
it gets it back, but for one thing: JSON escapes the halves of a character like any two halves, so a signer
in whom a low half follows a high one is received with both joined.

* `Transaction.isWritable_toJson_iff` : which transactions can be written;
* `Transaction.Received` : what is received of a transaction;
* `built_received` : what is built is received;
* `transactions_received` : so is what a swap is composed of.
-/

set_option autoImplicit false

namespace CrossVenue

/-! ## What can be written -/

open Json in
theorem AccountReference.isWritable_toJson_iff {r : AccountReference} :
    r.toJson.isWritable = true ↔ Number.isWritable r.idIndex = true ∧
      Number.isWritable r.callerIndex = true ∧ Number.isWritable r.calleeIndex = true := by
  simp [toJson, isWritable_obj_iff, isWritable_int, isWritable_bool]

open Json in
theorem CompiledInstruction.isWritable_toJson_iff {ix : CompiledInstruction} :
    ix.toJson.isWritable = true ↔ ix.IsWritable := by
  simp [toJson, isWritable_obj_iff, isWritable_arr_iff, isWritable_int, isWritable_str, IsWritable,
    AccountReference.isWritable_toJson_iff]

open Json in
/-- **A transaction can be written when its positions and its budget can.** -/
theorem Transaction.isWritable_toJson_iff {tx : Transaction} :
    tx.toJson.isWritable = true ↔ (∀ ix ∈ tx.instructions, ix.IsWritable) ∧
      Number.isWritable tx.computeBudget = true := by
  simp [toJson, isWritable_obj_iff, isWritable_arr_iff, isWritable_int, isWritable_strings,
    CompiledInstruction.isWritable_toJson_iff]

/-! ## What is received -/

/-- A transaction that is received, as a value and in bytes. -/
structure Transaction.Received (tx : Transaction) : Prop where
  /-- The wire form is read as the transaction. -/
  value : reader tx.toJson = .accepted tx
  /-- It can be written in bytes unless a list is so long that its positions have no numerals. -/
  isWritable : tx.accounts.length < Number.tooLong →
    (∀ ix ∈ tx.instructions, ix.accounts.length < Number.tooLong) → tx.toJson.isWritable = true
  /-- The bytes are written, and read as the transaction with pairs of halves joined. -/
  bytes : tx.toJson.isWritable = true → ∃ v,
    (∀ room : Room, tx.toJson.encodeIn room = .ok tx.toJson.encode ∧
      Json.readBytes room tx.toJson.encode = .ok v) ∧
    reader v = .accepted tx.signersRejoined
  /-- That is the transaction itself exactly if its signers have no such pairs. -/
  same_iff : tx.signersRejoined = tx ↔ ∀ s ∈ tx.signers, s.Unpaired

section Built

variable {ixs : List (Instruction Json Json)} {signers budget : Json} {tx : Transaction}

theorem built_isKey (h : buildTransaction ixs signers budget = .ok tx) : ∀ a ∈ tx.accounts, IsKey a := by
  simp only [buildTransaction, bind_eq_ok_iff, lift_eq_ok_iff] at h
  obtain ⟨b, hb, hbuild⟩ := h
  exact (Builder.foldlM_holdsKeys hb).isKey hbuild

/-- **Whatever is built is received.** -/
theorem built_received (h : buildTransaction ixs signers budget = .ok tx) : tx.Received := by
  have hkeys := built_isKey h
  obtain ⟨goods, ready, names, units, -, hunits, -, -, rfl⟩ := buildTransaction_eq_ok_iff.1 h
  have hle : units ≤ maxWord64 := (readBudget_eq_ok_iff.1 hunits).2
  exact
    { value := Transaction.reader_toJson hle
      isWritable := by
        intro htable haccounts
        have hshort : ∀ ix ∈ ready, ix.accounts.length < Number.tooLong := by
          intro ix hix
          have hlen := haccounts _ (List.mem_map_of_mem hix)
          simpa [compileInstruction] using hlen
        exact Transaction.isWritable_toJson_iff.2
          ⟨compile_isWritable_of_short htable hshort names units,
            Number.isWritable_of_le_maxWord64 hle⟩
      bytes := by
        intro hw
        have hpositions := (Transaction.isWritable_toJson_iff.1 hw).1
        have hunits := Number.isWritable_of_le_maxWord64 hle
        rw [← Transaction.rejoined_of_isKey hkeys]
        refine ⟨_, fun room => ⟨?_, ?_⟩,
          (Transaction.readBytes_encode_toJson .least hpositions hle).2⟩
        · exact Json.encodeIn_of_isReadable (Transaction.isReadable_toJson hpositions hunits room.ample)
        · exact (Transaction.readBytes_encode_toJson room hpositions hle).1
      same_iff := Transaction.signersRejoined_eq_self_iff }

end Built

/-! ## Bodies of instructions -/

namespace PlaneInstruction

/-- **An instruction is read from its wire form**, its body from base64. -/
theorem reader_toJson (i : PlaneInstruction) : reader i.toJson = .accepted i := by
  have hplane : Plane.reader (.str i.plane.name) = .accepted i.plane := by
    cases i.plane <;> rfl
  have hmsg : Schema.bytes (.str (Base64.encode i.msg)) = .accepted i.msg := by
    simp [Schema.bytes, Base64.decode?_encode]
  show (((((Checked.accepted PlaneInstruction.mk).and ((Plane.reader _).under _)).and _).and _).and
    ((Schema.bytes _).under _)) = _
  rw [hplane, hmsg]
  rfl

theorem payload_of_readBytes {room : Room} {i : PlaneInstruction} {v : Json}
    (h : Json.readBytes room i.msg = .ok v) : i.payload room = .ok v := by
  rw [payload, h]

end PlaneInstruction

namespace Raydium

variable {r : Registry} {budget : Json} {swap : Swap} {tx : Transaction}

theorem swapTransaction_received (h : swapTransaction r budget swap = .ok tx) : tx.Received := by
  simp only [swapTransaction, bind_eq_ok_iff, lift_eq_ok_iff] at h
  obtain ⟨_, -, hbuilt⟩ := h
  exact built_received hbuilt

/-- The transaction of a swap is short enough to be written. -/
theorem swapTransaction_isWritable (h : swapTransaction r budget swap = .ok tx) :
    tx.signers = [swap.sender] ∧ tx.toJson.isWritable = true := by
  obtain ⟨ixs, units, -, -, rfl, hunits, -, hlen, -⟩ := swapTransaction_eq_ok h
  exact ⟨rfl, Transaction.isWritable_toJson_iff.2
    ⟨compile_isWritable hlen _ _, Number.isWritable_of_le_maxWord64 hunits⟩⟩

end Raydium

/-- **Transactions are received as they are built**, as values and in bytes, but for pairs of halves in
signers, which are received joined.  The instruction of a swap is one of them: its body is read from
base64, and the transaction from the JSON in that. -/
theorem transactions_received :
    (∀ (ixs : List (Instruction Json Json)) (signers budget : Json) (tx : Transaction),
      buildTransaction ixs signers budget = .ok tx → tx.Received) ∧
    ∀ (room : Room) (r : Registry) (budget : Json) (swap : Swap) (is : List PlaneInstruction),
      Raydium.composeSwap room r budget swap = .ok is →
      ∃ tx i, Raydium.swapTransaction r (Raydium.budgetOr r budget) swap = .ok tx ∧ is = [i] ∧
        PlaneInstruction.reader i.toJson = .accepted i ∧ i.msg = tx.toJson.encode ∧
        (∃ v, (∀ room, i.payload room = .ok v) ∧
          Transaction.reader v = .accepted tx.signersRejoined) ∧
        (tx.signersRejoined = tx ↔ swap.sender.Unpaired) := by
  refine ⟨fun ixs signers budget tx h => built_received h, fun room r budget swap is h => ?_⟩
  obtain ⟨tx, htx, rfl⟩ := Raydium.composeSwap_eq_ok_iff.1 h
  have hreceived := Raydium.swapTransaction_received htx
  obtain ⟨hsigners, hw⟩ := Raydium.swapTransaction_isWritable htx
  obtain ⟨v, hv, htv⟩ := hreceived.bytes hw
  refine ⟨tx, _, htx, rfl, PlaneInstruction.reader_toJson _, rfl,
    ⟨v, fun room => PlaneInstruction.payload_of_readBytes (hv room).2, htv⟩, ?_⟩
  rw [hreceived.same_iff, hsigners]
  exact List.forall_mem_singleton

/-- The creations, and a sale of ether. -/
theorem etherSale_received :
    (∃ tx, buildTransaction (creations.map (Instruction.map Json.str Json.bool))
        (Json.strings ["lux1"]) (.int 1000) = .ok tx ∧ tx.toJson.isWritable = true ∧
      ∃ v, (∀ room : Room, tx.toJson.encodeIn room = .ok tx.toJson.encode ∧
          Json.readBytes room tx.toJson.encode = .ok v) ∧
        Transaction.reader v = .accepted tx) ∧
    ∃ tx i, Raydium.composeSwap .least .builtin (.int 1000) Raydium.etherSale = .ok [i] ∧
      Raydium.swapTransaction .builtin (.int 1000) Raydium.etherSale = .ok tx ∧
      ∃ v, (∀ room, i.payload room = .ok v) ∧ Transaction.reader v = .accepted tx := by
  constructor
  · have hkeys : ∀ ix ∈ creations, ∀ a ∈ ix.addresses, IsKey a := by decide +kernel
    have hbuild : buildTransaction (creations.map (Instruction.map Json.str Json.bool))
        (Json.strings ["lux1"]) (.int 1000) = .ok (compile creations ["lux1"] 1000) :=
      build_written_iff.2 ⟨hkeys, 1000, rfl, rfl⟩
    have hreceived := transactions_received.1 _ _ _ _ hbuild
    have hw := hreceived.isWritable (by decide +kernel) (by decide +kernel)
    obtain ⟨v, hv, htx⟩ := hreceived.bytes hw
    rw [hreceived.same_iff.2 (by decide)] at htx
    exact ⟨_, hbuild, hw, v, hv, htx⟩
  · obtain ⟨tx, htx⟩ := Raydium.etherSale_composed
    have hcomposed : Raydium.composeSwap .least .builtin (.int 1000) Raydium.etherSale =
        .ok [.carrying .svm PlaneInstruction.invokeMachine tx.toJson] :=
      Raydium.composeSwap_eq_ok_iff.2 ⟨tx, htx, rfl⟩
    obtain ⟨sold, i, hsold, his, -, -, ⟨v, hv, hread⟩, hsame⟩ :=
      transactions_received.2 _ _ _ _ _ hcomposed
    rw [hsame.2 (by decide)] at hread
    rw [his] at hcomposed
    exact ⟨sold, i, hcomposed, hsold, v, hv, hread⟩

/-- A signer of two halves that make up one character. -/
def splitSigner : Text := ⟨[.half 0x80, .half 0x480]⟩

/-- **Halves that stand apart are received joined**, so a transaction may be received as another one. -/
theorem split_signer_joined :
    ¬ ∀ (ixs : List (Instruction Json Json)) (signers budget : Json) (tx : Transaction),
      buildTransaction ixs signers budget = .ok tx →
      ∃ (room : Room) (v : Json), Json.readBytes room tx.toJson.encode = .ok v ∧
        Transaction.reader v = .accepted tx := by
  intro h
  have hbuild : buildTransaction [] (Json.strings [splitSigner]) (.int 0) =
      .ok (compile [] [splitSigner] 0) := rfl
  obtain ⟨room, v, hv, htx⟩ := h _ _ _ _ hbuild
  have hreceived := built_received hbuild
  obtain ⟨w, hw, htw⟩ := hreceived.bytes
    (hreceived.isWritable (by decide +kernel) (by decide +kernel))
  -- the bytes hold one value, and that is read in one way
  have hsame := hv.symm.trans (hw room).2
  cases hsame
  rw [htx, Checked.accepted.injEq] at htw
  have hunpaired := hreceived.same_iff.1 htw.symm
  exact absurd hunpaired (by decide)

end CrossVenue
