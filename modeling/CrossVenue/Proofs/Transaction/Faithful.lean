import CrossVenue.Proofs.Transaction.Build
import Mathlib.Data.List.Forall2

/-!
# Transactions stand for their instructions

A transaction is compiled in two passes: one collects the table of addresses, the other replaces every
address by its position there.  What the first pass is about is the order in which addresses are met; what
the second needs of it is only that every address it looks up is in the table.

* `idxOf_accountTable_lt_iff` : the table lists addresses in the order in which they are first met;
* `Instruction.ReadsAs` : what an instruction is read as before it is compiled;
* `Transaction.StandsFor` : the transaction has every instruction, every account and every flag in its
  place, and its table lists every address once and nothing else;
* `build_stands_for` : what is built stands for what was given.
-/

set_option autoImplicit false

namespace CrossVenue

/-! ## The order of the table -/

/-- The table lists what was met so far, in the order in which it was first met. -/
structure ListsInOrder (table met : List Text) : Prop where
  mem_iff : ∀ a, a ∈ table ↔ a ∈ met
  order : ∀ {a b}, a ∈ met → b ∈ met → (table.idxOf a < table.idxOf b ↔ met.idxOf a < met.idxOf b)

/-- What is new stands behind everything else, what is not new does not move. -/
theorem idxOf_concat_lt_iff {xs : List Text} {x a b : Text} (ha : a ∈ xs ++ [x]) (hb : b ∈ xs ++ [x]) :
    (xs ++ [x]).idxOf a < (xs ++ [x]).idxOf b ↔ a ∈ xs ∧ (b ∈ xs → xs.idxOf a < xs.idxOf b) := by
  have hlast : ∀ {c}, c ∈ xs ++ [x] → c ∉ xs → (xs ++ [x]).idxOf c = xs.length := by
    intro c hc hnot
    obtain rfl : c = x := by simpa [hnot] using hc
    rw [List.idxOf_append_of_notMem hnot, List.idxOf_cons_self, Nat.add_zero]
  by_cases hax : a ∈ xs
  · by_cases hbx : b ∈ xs
    · simp only [List.idxOf_append_of_mem, hax, hbx, true_and, true_imp_iff]
    · rw [List.idxOf_append_of_mem hax, hlast hb hbx]
      exact iff_of_true (List.idxOf_lt_length_of_mem hax) ⟨hax, fun h => absurd h hbx⟩
  · have hle : (xs ++ [x]).idxOf b < (xs ++ [x]).length := List.idxOf_lt_length_of_mem hb
    rw [List.length_append, List.length_singleton] at hle
    rw [hlast ha hax]
    exact iff_of_false (by omega) fun h => hax h.1

/-- A table that takes only what is new has it in the place where a list that takes everything has it
first. -/
theorem idxOf_insertNew {table : List Text} {x a : Text} (ha : a ∈ table ++ [x]) :
    (insertNew table x).idxOf a = (table ++ [x]).idxOf a := by
  unfold insertNew
  split
  · rename_i hx
    have hmem : a ∈ table := by
      rcases List.mem_append.1 ha with h | h
      · exact h
      · exact List.mem_singleton.1 h ▸ hx
    rw [List.idxOf_append_of_mem hmem]
  · rfl

theorem ListsInOrder.add {table met : List Text} (h : ListsInOrder table met) (x : Text) :
    ListsInOrder (insertNew table x) (met ++ [x]) := by
  refine ⟨fun a => by simp [mem_insertNew_iff, h.mem_iff], ?_⟩
  intro a b ha hb
  have htable : ∀ c, c ∈ met ++ [x] → c ∈ table ++ [x] := by
    intro c hc
    simpa [h.mem_iff c] using hc
  rw [idxOf_insertNew (htable a ha), idxOf_insertNew (htable b hb),
    idxOf_concat_lt_iff (htable a ha) (htable b hb), idxOf_concat_lt_iff ha hb, h.mem_iff a, h.mem_iff b]
  exact and_congr_right fun ha' => imp_congr_right fun hb' => h.order ha' hb'

theorem ListsInOrder.addAll {table met : List Text} (h : ListsInOrder table met) (xs : List Text) :
    ListsInOrder (xs.foldl insertNew table) (met ++ xs) := by
  induction xs generalizing table met with
  | nil => simpa using h
  | cons x xs ih =>
    rw [List.foldl_cons, show met ++ x :: xs = met ++ [x] ++ xs by simp]
    exact ih (h.add x)

theorem accountTable_listsInOrder (ixs : List (Instruction Text Bool)) :
    ListsInOrder (accountTable ixs) (ixs.flatMap Instruction.addresses) := by
  have hempty : ListsInOrder [] [] := ⟨fun _ => Iff.rfl, fun h => by cases h⟩
  exact hempty.addAll (ixs.flatMap Instruction.addresses)

/-- **The table lists addresses in the order in which they are first met.** -/
theorem idxOf_accountTable_lt_iff {ixs : List (Instruction Text Bool)} {a b : Text}
    (ha : a ∈ accountTable ixs) (hb : b ∈ accountTable ixs) :
    (accountTable ixs).idxOf a < (accountTable ixs).idxOf b ↔
      (ixs.flatMap Instruction.addresses).idxOf a < (ixs.flatMap Instruction.addresses).idxOf b := by
  have h := accountTable_listsInOrder ixs
  exact h.order ((h.mem_iff a).1 ha) ((h.mem_iff b).1 hb)

/-- A program stands in the table before the accounts that are first met in its instruction. -/
theorem programId_le_of_new {before after : List (Instruction Text Bool)} {ix : Instruction Text Bool}
    {a : Text} (ha : a ∈ ix.addresses) (hnew : ∀ jx ∈ before, a ∉ jx.addresses) :
    (accountTable (before ++ ix :: after)).idxOf ix.programId ≤
      (accountTable (before ++ ix :: after)).idxOf a := by
  have hix : ix ∈ before ++ ix :: after := by simp
  have hp : ix.programId ∈ ix.addresses := by simp [Instruction.addresses]
  have hnew' : a ∉ before.flatMap Instruction.addresses := by
    rw [List.mem_flatMap]
    rintro ⟨jx, hj, hmem⟩
    exact hnew jx hj hmem
  refine Nat.le_of_not_lt fun hlt => ?_
  rw [idxOf_accountTable_lt_iff (mem_accountTable_iff.2 ⟨ix, hix, ha⟩)
    (mem_accountTable_iff.2 ⟨ix, hix, hp⟩), List.flatMap_append, List.flatMap_cons,
    List.idxOf_append_of_notMem hnew'] at hlt
  by_cases hb : ix.programId ∈ before.flatMap Instruction.addresses
  · rw [List.idxOf_append_of_mem hb] at hlt
    have hlen := List.idxOf_lt_length_of_mem hb
    omega
  · rw [List.idxOf_append_of_notMem hb, Instruction.addresses, List.cons_append,
      List.idxOf_cons_self] at hlt
    omega

/-! ## What instructions are read as -/

/-- The account that a given one is read as: its address is a text, its flags are truth values. -/
structure AccountMeta.ReadsAs (given : AccountMeta Json Json) (m : AccountMeta Text Bool) : Prop where
  pubkey_eq : given.pubkey = .str m.pubkey
  isSigner_eq : Schema.boolean given.isSigner = .accepted m.isSigner
  isWritable_eq : Schema.boolean given.isWritable = .accepted m.isWritable

/-- The instruction that a given one is read as. -/
structure Instruction.ReadsAs (given : Instruction Json Json) (ix : Instruction Text Bool) : Prop where
  programId_eq : given.programId = .str ix.programId
  accounts : List.Forall₂ AccountMeta.ReadsAs given.accounts ix.accounts
  data_eq : given.data = ix.data

/-- What holds of two steps holds of both passes over a list. -/
theorem forall₂_comp {α β γ : Type} {R : α → β → Prop} {S : β → γ → Prop} {T : α → γ → Prop}
    (h : ∀ a b c, R a b → S b c → T a c) {xs : List α} {ys : List β} {zs : List γ}
    (hxy : List.Forall₂ R xs ys) (hyz : List.Forall₂ S ys zs) : List.Forall₂ T xs zs := by
  induction hxy generalizing zs with
  | nil =>
    cases hyz
    exact .nil
  | cons hab _ ih =>
    cases hyz with
    | cons hbc hrest => exact .cons (h _ _ _ hab hbc) (ih hrest)

/-- A list is got back from what holds of its image. -/
theorem eq_of_forall₂_map {α β : Type} {f : α → β} {R : β → α → Prop} (hR : ∀ x y, R (f x) y → y = x)
    {xs ys : List α} (h : List.Forall₂ R (xs.map f) ys) : ys = xs := by
  rw [List.forall₂_map_left_iff] at h
  have heq : List.Forall₂ Eq xs ys := h.imp fun x y hxy => (hR x y hxy).symm
  rw [List.forall₂_eq_eq_eq] at heq
  exact heq.symm

theorem AccountMeta.readsAs_of_ok {given : AccountMeta Json Json} {named : AccountMeta Text Json}
    {m : AccountMeta Text Bool} (hc : given.checked = .ok named)
    (hf : named.withFlags.attempt = .ok m) : given.ReadsAs m := by
  simp only [checked, map_eq_ok_iff, addressText_eq_ok_iff] at hc
  obtain ⟨a, ⟨ha, -⟩, rfl⟩ := hc
  simp only [withFlags, attempt_eq_ok_iff, Checked.and_eq_accepted_iff,
    Checked.under_eq_accepted_iff] at hf
  obtain ⟨_, written, ⟨_, signer, hmk, hsigner, rfl⟩, hwritten, rfl⟩ := hf
  cases hmk
  exact ⟨ha, hsigner, hwritten⟩

theorem Instruction.readsAs_of_ok {given : Instruction Json Json} {named : Instruction Text Json}
    {ix : Instruction Text Bool} (hc : given.checked = .ok named) (hf : named.withFlags = .ok ix) :
    given.ReadsAs ix := by
  simp only [checked, bind_eq_ok_iff, addressText_eq_ok_iff, Except.ok.injEq] at hc
  obtain ⟨p, ⟨hp, -⟩, accounts, haccounts, rfl⟩ := hc
  simp only [withFlags, bind_eq_ok_iff, Except.ok.injEq] at hf
  obtain ⟨ready, hready, rfl⟩ := hf
  refine ⟨hp, forall₂_comp ?_ (forall₂_of_mapM_ok haccounts) (forall₂_of_mapM_ok hready), rfl⟩
  intro _ _ _ hnamed hflags
  exact AccountMeta.readsAs_of_ok hnamed hflags

theorem AccountMeta.eq_of_readsAs_written {m read : AccountMeta Text Bool}
    (h : (m.map Json.str Json.bool).ReadsAs read) : read = m := by
  obtain ⟨pubkey, isSigner, isWritable⟩ := m
  obtain ⟨pubkey', isSigner', isWritable'⟩ := read
  obtain ⟨hk, hs, hw⟩ := h
  cases hk
  cases hs
  cases hw
  rfl

/-- Instructions that are written down are read as they stand. -/
theorem Instruction.eq_of_readsAs_written {ix read : Instruction Text Bool}
    (h : (ix.map Json.str Json.bool).ReadsAs read) : read = ix := by
  obtain ⟨programId, accounts, data⟩ := ix
  obtain ⟨programId', accounts', data'⟩ := read
  obtain ⟨hp, ha, hd⟩ := h
  have haccounts : accounts' = accounts :=
    eq_of_forall₂_map (fun _ _ => AccountMeta.eq_of_readsAs_written) ha
  cases hp
  cases hd
  rw [haccounts]

/-! ## What transactions stand for -/

/-- A reference has the address of an account at its index, twice, the first position of that address within
the instruction, and both flags. -/
structure AccountReference.StandsFor (r : AccountReference) (tx : Transaction)
    (ix : Instruction Text Bool) (m : AccountMeta Text Bool) : Prop where
  address : tx.address? r.idIndex = some m.pubkey
  caller_eq : r.callerIndex = r.idIndex
  callee_first : ∃ k : Nat, r.calleeIndex = k ∧ ix.accounts[k]?.map (·.pubkey) = some m.pubkey ∧
    ∀ l < k, ix.accounts[l]?.map (·.pubkey) ≠ some m.pubkey
  isSigner_eq : r.isSigner = m.isSigner
  isWritable_eq : r.isWritable = m.isWritable

/-- A compiled instruction has the program, the accounts in order and the data of an instruction. -/
structure CompiledInstruction.StandsFor (c : CompiledInstruction) (tx : Transaction)
    (ix : Instruction Text Bool) : Prop where
  program : tx.address? c.programIndex = some ix.programId
  accounts : List.Forall₂ (fun r m => r.StandsFor tx ix m) c.accounts ix.accounts
  data_eq : c.data = ix.data

/-- A transaction has every instruction in its place, and a table of just their addresses. -/
structure Transaction.StandsFor (tx : Transaction) (ixs : List (Instruction Text Bool)) : Prop where
  instructions : List.Forall₂ (fun c ix => c.StandsFor tx ix) tx.instructions ixs
  decompile_eq : tx.decompile = some ixs
  nodup : tx.accounts.Nodup
  mem_iff : ∀ a, a ∈ tx.accounts ↔ ∃ ix ∈ ixs, a ∈ ix.addresses
  /-- Addresses stand in the order in which they are first met. -/
  order : ∀ a ∈ tx.accounts, ∀ b ∈ tx.accounts, tx.accounts.idxOf a < tx.accounts.idxOf b ↔
    (ixs.flatMap Instruction.addresses).idxOf a < (ixs.flatMap Instruction.addresses).idxOf b
  /-- A program stands before the accounts that are first met in its instruction. -/
  program_first : ∀ before ix after, ixs = before ++ ix :: after → ∀ m ∈ ix.accounts,
    (∀ jx ∈ before, m.pubkey ∉ jx.addresses) →
      tx.accounts.idxOf ix.programId ≤ tx.accounts.idxOf m.pubkey

theorem idxOf_first {ix : Instruction Text Bool} {m : AccountMeta Text Bool} (hm : m ∈ ix.accounts) :
    ix.accounts[(ix.accounts.map (·.pubkey)).idxOf m.pubkey]?.map (·.pubkey) = some m.pubkey ∧
      ∀ l < (ix.accounts.map (·.pubkey)).idxOf m.pubkey,
        ix.accounts[l]?.map (·.pubkey) ≠ some m.pubkey := by
  constructor
  · rw [← List.getElem?_map]
    exact List.getElem?_idxOf (List.mem_map.2 ⟨m, hm, rfl⟩)
  · intro l hl heq
    rw [← List.getElem?_map, List.getElem?_eq_some_iff] at heq
    obtain ⟨hlt, hget⟩ := heq
    have hbefore : ((ix.accounts.map (·.pubkey))[l] == m.pubkey) = false :=
      List.not_of_lt_findIdx hl
    rw [hget, beq_self_eq_true] at hbefore
    cases hbefore

theorem compileInstruction_standsFor (tx : Transaction) {ix : Instruction Text Bool}
    (h : ∀ a ∈ ix.addresses, a ∈ tx.accounts) :
    (compileInstruction tx.accounts ix).StandsFor tx ix := by
  have haccounts : ∀ m ∈ ix.accounts, m.pubkey ∈ tx.accounts := by
    intro m hm
    exact h _ (List.mem_cons_of_mem _ (List.mem_map.2 ⟨m, hm, rfl⟩))
  refine ⟨address?_idxOf (h _ List.mem_cons_self), ?_, rfl⟩
  simp only [compileInstruction]
  rw [List.forall₂_map_left_iff, List.forall₂_same]
  intro m hm
  exact
    { address := address?_idxOf (haccounts m hm)
      caller_eq := rfl
      callee_first := ⟨_, rfl, idxOf_first hm⟩
      isSigner_eq := rfl
      isWritable_eq := rfl }

/-- **What is compiled stands for the instructions that were given.** -/
theorem compile_standsFor (ixs : List (Instruction Text Bool)) (signers : List Text) (budget : Nat) :
    (compile ixs signers budget).StandsFor ixs where
  instructions := by
    have htable : ∀ ix ∈ ixs, (compileInstruction (accountTable ixs) ix).StandsFor
        (compile ixs signers budget) ix := by
      intro ix hix
      exact compileInstruction_standsFor (compile ixs signers budget)
        fun a ha => mem_accountTable_iff.2 ⟨ix, hix, ha⟩
    show List.Forall₂ _ (ixs.map (compileInstruction (accountTable ixs))) ixs
    rw [List.forall₂_map_left_iff, List.forall₂_same]
    exact htable
  decompile_eq := decompile_compile ixs signers budget
  nodup := accountTable_nodup ixs
  mem_iff := fun _ => mem_accountTable_iff
  order := fun _ ha _ hb => idxOf_accountTable_lt_iff ha hb
  program_first := by
    rintro before ix after rfl m hm hnew
    exact programId_le_of_new (List.mem_cons_of_mem _ (List.mem_map.2 ⟨m, hm, rfl⟩)) hnew

/-- **What is built stands for what was given.**  Instructions that are accepted at all are read in one way,
as they stand if they are written down, and are built with any good signers and budget. -/
theorem build_stands_for {ixs : List (Instruction Json Json)}
    (h : ∃ signers budget tx, buildTransaction ixs signers budget = .ok tx) :
    ∃ read, List.Forall₂ Instruction.ReadsAs ixs read ∧
      (∀ written, ixs = written.map (Instruction.map Json.str Json.bool) → read = written) ∧
      ∀ {signers budget : Json} {names : List Text} {units : Nat},
        readSigners signers = .ok names → readBudget budget = .ok units →
        ∃ tx, buildTransaction ixs signers budget = .ok tx ∧ tx.signers = names ∧
          tx.computeBudget = units ∧ tx.StandsFor read := by
  obtain ⟨_, _, _, hbuilt⟩ := h
  obtain ⟨goods, read, _, _, hgoods, -, -, hread, -⟩ := buildTransaction_eq_ok_iff.1 hbuilt
  have hreads : List.Forall₂ Instruction.ReadsAs ixs read := by
    refine forall₂_comp ?_ (forall₂_of_mapM_ok hgoods) (forall₂_of_mapM_ok hread)
    intro _ _ _ hchecked hflags
    exact Instruction.readsAs_of_ok hchecked hflags
  refine ⟨read, hreads, ?_, ?_⟩
  · rintro written rfl
    exact eq_of_forall₂_map (fun _ _ => Instruction.eq_of_readsAs_written) hreads
  · intro signers budget names units hs hb
    exact ⟨compile read names units,
      buildTransaction_eq_ok_iff.2 ⟨goods, read, names, units, hgoods, hb, hs, hread, rfl⟩, rfl, rfl,
      compile_standsFor read names units⟩

/-- Two accounts that are created for one payer; the second is named twice, once without its signature. -/
def creations : List (Instruction Text Bool) :=
  [⟨"11111111111111111111111111111111",
    [⟨"RM3uwjR7LUugxxfZLe9grNC9HNW7BMU9227KsyFsbfB", true, true⟩,
      ⟨"8LBk2doATLb8M6JX4auYe1gGQMqimHi1hwkKSkLzo6f5", true, true⟩], [1, 2, 3]⟩,
   ⟨"11111111111111111111111111111111",
    [⟨"RM3uwjR7LUugxxfZLe9grNC9HNW7BMU9227KsyFsbfB", true, true⟩,
      ⟨"Zs5KiCvJHCN2PwZqEQczvQGizKr6en9AAotSfi9AeWH", true, true⟩,
      ⟨"Zs5KiCvJHCN2PwZqEQczvQGizKr6en9AAotSfi9AeWH", false, true⟩], [4, 5, 6]⟩]

theorem creations_stand :
    let given := creations.map (Instruction.map Json.str Json.bool)
    (∃ signers budget tx, buildTransaction given signers budget = .ok tx) ∧
    (readSigners (Json.strings ["lux1"]) = .ok ["lux1"] ∧ readBudget (.int 1000) = .ok 1000) ∧
    ∃ tx, buildTransaction given (Json.strings ["lux1"]) (.int 1000) = .ok tx ∧
      tx.accounts.length = 4 ∧ tx.StandsFor creations := by
  intro given
  have hkeys : ∀ ix ∈ creations, ∀ a ∈ ix.addresses, IsKey a := by decide +kernel
  have hs : readSigners (Json.strings ["lux1"]) = .ok ["lux1"] := rfl
  have hb : readBudget (.int 1000) = .ok 1000 := rfl
  have haccepted : ∃ signers budget tx, buildTransaction given signers budget = .ok tx :=
    ⟨Json.strings [], .int 0, compile creations [] 0, build_written_iff.2 ⟨hkeys, 0, rfl, rfl⟩⟩
  refine ⟨haccepted, ⟨hs, hb⟩, ?_⟩
  obtain ⟨read, -, hwritten, hbuild⟩ := build_stands_for haccepted
  obtain ⟨tx, htx, -, -, hstands⟩ := hbuild hs hb
  obtain rfl := hwritten creations rfl
  have htx' : tx = compile creations ["lux1"] 1000 := by
    obtain ⟨-, units, hunits, rfl⟩ := build_written_iff.1 htx
    rw [hb, Except.ok.injEq] at hunits
    rw [hunits]
  exact ⟨tx, htx, by rw [htx']; decide +kernel, hstands⟩

end CrossVenue
