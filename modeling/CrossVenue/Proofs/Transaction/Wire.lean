import CrossVenue.Proofs.Json.Bytes
import CrossVenue.Proofs.Number.Short
import CrossVenue.Proofs.Transaction.Build
import CrossVenue.Transaction.Wire

/-!
# Transactions read back

A transaction is read back from its wire form, and from the bytes of it; what bytes cannot keep apart
are pairs of halves in the texts of signers and accounts.

* `reader_toJson` : reading undoes writing;
* `rejoined_toJson` : joining halves in the wire form is joining them in the transaction;
* `rejoined_of_isKey`, `signersRejoined_eq_self_iff` : which transactions have nothing to join;
* `readBytes_encode_toJson` : what the bytes of a transaction hold.
-/

set_option autoImplicit false

namespace CrossVenue

open Schema

/-! ## Lists -/

theorem listOf_map {α : Type} {r : Reader α} {f : α → Json} {xs : List α}
    (h : ∀ x ∈ xs, r (f x) = .accepted x) : listOf r (.arr (xs.map f)) = .accepted xs := by
  refine listOf_eq_accepted_iff.2 ⟨xs.map f, rfl, List.ext_getElem (by simp) fun i h1 h2 => ?_⟩
  simp only [List.length_mapIdx, List.length_map] at h1
  simp [h xs[i] (List.getElem_mem h1), Checked.under]

theorem listOf_text (xs : List Text) : listOf text (Json.strings xs) = .accepted xs :=
  listOf_map fun _ _ => rfl

/-! ## The wire form -/

theorem AccountReference.reader_toJson (r : AccountReference) : reader r.toJson = .accepted r := rfl

theorem CompiledInstruction.reader_toJson (ix : CompiledInstruction) :
    reader ix.toJson = .accepted ix := by
  have ha : listOf AccountReference.reader (.arr (ix.accounts.map AccountReference.toJson)) =
      .accepted ix.accounts := listOf_map fun r _ => r.reader_toJson
  have hd : bytes (.str (Base64.encode ix.data)) = .accepted ix.data := by
    simp [bytes, Base64.decode?_encode]
  show (((Checked.accepted CompiledInstruction.mk).and _).and
    ((listOf AccountReference.reader _).under _)).and ((bytes _).under _) = _
  rw [ha, hd]
  rfl

/-- **Reading undoes writing.** -/
theorem Transaction.reader_toJson {tx : Transaction} (h : tx.computeBudget ≤ maxWord64) :
    reader tx.toJson = .accepted tx := by
  have hi : listOf CompiledInstruction.reader
      (.arr (tx.instructions.map CompiledInstruction.toJson)) = .accepted tx.instructions :=
    listOf_map fun ix _ => ix.reader_toJson
  have hb : upTo maxWord64 .lessThanEqual (.int tx.computeBudget) =
      .accepted ⟨tx.computeBudget, h⟩ := by
    have h1 : ¬ (maxWord64 : Int) < tx.computeBudget := by omega
    have h2 : ¬ (tx.computeBudget : Int) < 0 := by omega
    simp [upTo, between, integer, Checked.andThen, h1, h2, Checked.map]
  show ((((Checked.accepted Transaction.mk).and ((listOf text _).under _)).and
    ((listOf text _).under _)).and ((listOf CompiledInstruction.reader _).under _)).and
    (((upTo maxWord64 .lessThanEqual _).under _).map _) = _
  rw [listOf_text, listOf_text, hi, hb]
  rfl

/-! ## Texts whose halves are joined -/

namespace Json

theorem rejoinedItems_strings (xs : List Text) :
    rejoinedItems (xs.map .str) = (xs.map Text.rejoined).map .str := by
  induction xs with
  | nil => rfl
  | cons x xs ih => rw [List.map_cons, rejoinedItems, ih]; rfl

theorem rejoinedItems_of_forall {items : List Json} (h : ∀ v ∈ items, v.rejoined = v) :
    rejoinedItems items = items := by
  induction items with
  | nil => rfl
  | cons v items ih =>
    rw [rejoinedItems, h v (by simp), ih fun w hw => h w (by simp [hw])]

theorem areReadable_of_forall {items : List Json} {room : Nat}
    (h : ∀ v ∈ items, v.IsReadable room) : AreReadable items room := by
  induction items with
  | nil => trivial
  | cons v items ih => exact ⟨h v (by simp), ih fun w hw => h w (by simp [hw])⟩

end Json

/-- The transaction with the pairs of halves in its texts joined. -/
def Transaction.rejoined (tx : Transaction) : Transaction :=
  { tx with signers := tx.signers.map Text.rejoined, accounts := tx.accounts.map Text.rejoined }

theorem AccountReference.rejoined_toJson (r : AccountReference) : r.toJson.rejoined = r.toJson := by
  simp [toJson, Json.rejoined, Json.rejoinedFields]

theorem CompiledInstruction.rejoined_toJson (ix : CompiledInstruction) :
    ix.toJson.rejoined = ix.toJson := by
  have ha : Json.rejoinedItems (ix.accounts.map AccountReference.toJson) =
      ix.accounts.map AccountReference.toJson := by
    refine Json.rejoinedItems_of_forall fun v hv => ?_
    obtain ⟨r, -, rfl⟩ := List.mem_map.1 hv
    exact r.rejoined_toJson
  simp [toJson, Json.rejoined, Json.rejoinedFields, Json.rejoinedItems, ha]

theorem Transaction.rejoined_toJson (tx : Transaction) :
    tx.toJson.rejoined = tx.rejoined.toJson := by
  have hi : Json.rejoinedItems (tx.instructions.map CompiledInstruction.toJson) =
      tx.instructions.map CompiledInstruction.toJson := by
    refine Json.rejoinedItems_of_forall fun v hv => ?_
    obtain ⟨ix, -, rfl⟩ := List.mem_map.1 hv
    exact ix.rejoined_toJson
  simp [toJson, rejoined, Json.strings, Json.rejoined, Json.rejoinedFields,
    Json.rejoinedItems_strings, hi]

/-! ## What bytes hold -/

/-- Can all positions of an instruction be written? -/
def CompiledInstruction.IsWritable (ix : CompiledInstruction) : Prop :=
  Number.isWritable ix.programIndex = true ∧ ∀ r ∈ ix.accounts,
    Number.isWritable r.idIndex = true ∧ Number.isWritable r.callerIndex = true ∧
      Number.isWritable r.calleeIndex = true

theorem CompiledInstruction.isReadable_toJson {ix : CompiledInstruction} {room : Nat}
    (h : ix.IsWritable) (hr : 3 ≤ room) : ix.toJson.IsReadable room := by
  have ha : Json.AreReadable (ix.accounts.map AccountReference.toJson) (room - 1 - 1) := by
    refine Json.areReadable_of_forall fun v hv => ?_
    obtain ⟨r, hm, rfl⟩ := List.mem_map.1 hv
    obtain ⟨h1, h2, h3⟩ := h.2 r hm
    simp [AccountReference.toJson, Json.IsReadable, Json.HaveReadable, Text.ofString_inj, h1, h2, h3]
    omega
  simp [toJson, Json.IsReadable, Json.HaveReadable, Json.AreReadable, Text.ofString_inj, ha, h.1]
  omega

theorem areReadable_strings (xs : List Text) (room : Nat) :
    Json.AreReadable (xs.map .str) room := by
  refine Json.areReadable_of_forall fun v hv => ?_
  obtain ⟨s, -, rfl⟩ := List.mem_map.1 hv
  trivial

theorem Transaction.isReadable_toJson {tx : Transaction} {room : Nat}
    (h : ∀ ix ∈ tx.instructions, ix.IsWritable)
    (hb : Number.isWritable tx.computeBudget = true) (hr : 6 ≤ room) :
    tx.toJson.IsReadable room := by
  have hi : Json.AreReadable (tx.instructions.map CompiledInstruction.toJson) (room - 1 - 1) := by
    refine Json.areReadable_of_forall fun v hv => ?_
    obtain ⟨ix, hm, rfl⟩ := List.mem_map.1 hv
    exact CompiledInstruction.isReadable_toJson (h ix hm) (by omega)
  simp [toJson, Json.strings, Json.IsReadable, Json.HaveReadable, Text.ofString_inj,
    areReadable_strings, hi, hb]
  omega

/-- The transaction with the pairs of halves in its signers joined. -/
def Transaction.signersRejoined (tx : Transaction) : Transaction :=
  { tx with signers := tx.signers.map Text.rejoined }

/-- Keys are plain, so only signers may hold halves. -/
theorem Transaction.rejoined_of_isKey {tx : Transaction} (h : ∀ a ∈ tx.accounts, IsKey a) :
    tx.rejoined = tx.signersRejoined := by
  have ha : tx.accounts.map Text.rejoined = tx.accounts.map id :=
    List.map_congr_left fun a hm => Text.rejoined_of_isPlain (isPlain_of_isKey (h a hm))
  rw [rejoined, signersRejoined, ha, List.map_id]

theorem Transaction.signersRejoined_eq_self_iff {tx : Transaction} :
    tx.signersRejoined = tx ↔ ∀ s ∈ tx.signers, s.Unpaired := by
  have hsigners : tx.signersRejoined = tx ↔ tx.signers.map Text.rejoined = tx.signers.map id := by
    rw [List.map_id]
    exact ⟨fun h => congrArg signers h, fun h => by rw [signersRejoined, h]⟩
  rw [hsigners, List.map_inj_left]
  exact forall₂_congr fun s _ => Text.rejoined_eq_self_iff

/-- What is compiled from written instructions has keys for accounts. -/
theorem rejoined_compile {ixs : List (Instruction Text Bool)}
    (h : ∀ ix ∈ ixs, ∀ a ∈ ix.addresses, IsKey a) (signers : List Text) (budget : Nat) :
    (compile ixs signers budget).rejoined = compile ixs (signers.map Text.rejoined) budget := by
  refine Transaction.rejoined_of_isKey fun a hm => ?_
  obtain ⟨ix, hix, hmem⟩ := mem_accountTable_iff.1 hm
  exact h ix hix a hmem

/-- **The bytes of a transaction are read back.** -/
theorem Transaction.readBytes_encode_toJson {tx : Transaction} (room : Room)
    (h : ∀ ix ∈ tx.instructions, ix.IsWritable) (hb : tx.computeBudget ≤ maxWord64) :
    Json.readBytes room tx.toJson.encode = .ok tx.rejoined.toJson ∧
      reader tx.rejoined.toJson = .accepted tx.rejoined := by
  have hw := Number.isWritable_of_le_maxWord64 hb
  rw [Json.readBytes_encode (isReadable_toJson h hw room.ample), rejoined_toJson]
  exact ⟨rfl, reader_toJson hb⟩

/-! ## Positions of what is compiled -/

theorem foldl_insertNew_length (table xs : List Text) :
    (xs.foldl insertNew table).length ≤ table.length + xs.length := by
  induction xs generalizing table with
  | nil => simp
  | cons x xs ih =>
    have hx : (insertNew table x).length ≤ table.length + 1 := by
      unfold insertNew
      split <;> simp
    have := ih (insertNew table x)
    simp only [List.foldl_cons, List.length_cons]
    omega

/-- Positions can be written as long as no list is too long. -/
theorem compile_isWritable_of_short {ixs : List (Instruction Text Bool)}
    (ht : (accountTable ixs).length < Number.tooLong)
    (ha : ∀ ix ∈ ixs, ix.accounts.length < Number.tooLong) (signers : List Text) (budget : Nat) :
    ∀ ix ∈ (compile ixs signers budget).instructions, ix.IsWritable := by
  have hle : ∀ a, (accountTable ixs).idxOf a ≤ (accountTable ixs).length := fun a =>
    List.idxOf_le_length
  intro ix hix
  obtain ⟨given, hg, rfl⟩ := List.mem_map.1 hix
  have hlen := ha given hg
  refine ⟨?_, fun r hr => ?_⟩
  · have := hle given.programId
    exact Number.isWritable_natCast (by omega)
  · obtain ⟨m, hm, rfl⟩ := List.mem_map.1 hr
    have h1 := hle m.pubkey
    have h2 := List.idxOf_le_length (a := m.pubkey) (l := given.accounts.map (·.pubkey))
    simp only [List.length_map] at h2
    exact ⟨Number.isWritable_natCast (by omega), Number.isWritable_natCast (by omega),
      Number.isWritable_natCast (by omega)⟩

/-- Positions can be written as long as the number of addresses can. -/
theorem compile_isWritable {ixs : List (Instruction Text Bool)}
    (h : (ixs.flatMap Instruction.addresses).length < Number.tooLong) (signers : List Text)
    (budget : Nat) : ∀ ix ∈ (compile ixs signers budget).instructions, ix.IsWritable := by
  have ht := foldl_insertNew_length [] (ixs.flatMap Instruction.addresses)
  simp only [List.length_nil, Nat.zero_add] at ht
  refine compile_isWritable_of_short (Nat.lt_of_le_of_lt ht h) (fun ix hix => ?_) signers budget
  have hlen := (List.sublist_flatten_of_mem
    (List.mem_map_of_mem (f := Instruction.addresses) hix)).length_le
  rw [← List.flatMap_def] at hlen
  simp only [Instruction.addresses, List.length_cons, List.length_map] at hlen h
  omega

end CrossVenue
