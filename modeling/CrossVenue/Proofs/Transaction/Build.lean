import CrossVenue.Proofs.Address.Key
import CrossVenue.Proofs.Computation
import CrossVenue.Transaction.Builder
import Mathlib.Data.List.Basic

/-!
# What is built

* `buildTransaction_eq_ok_iff` : a list of instructions is built when every address spells a key, the
  budget and the signers are read, and every flag is;
* `build_written_iff` : instructions whose addresses are texts and whose flags are truth values are
  compiled as they stand;
* `decompile_compile` : nothing of the instructions is lost.
-/

set_option autoImplicit false

namespace CrossVenue

/-! ## Adding -/

theorem Builder.add_eq_ok_iff {b c : Builder} {ix : Instruction Json Json} :
    b.add ix = .ok c ↔ ∃ good, ix.checked = .ok good ∧ c = ⟨b.held ++ [good]⟩ := by
  simp only [Builder.add, map_eq_ok_iff]
  exact exists_congr fun good => and_congr_right fun _ => eq_comm

theorem foldlM_add_eq_ok_iff {ixs : List (Instruction Json Json)} {b c : Builder} :
    ixs.foldlM Builder.add b = .ok c ↔
      ∃ goods, ixs.mapM Instruction.checked = .ok goods ∧ c = ⟨b.held ++ goods⟩ := by
  induction ixs generalizing b with
  | nil =>
    obtain ⟨held⟩ := b
    simp [pure, Except.pure, eq_comm]
  | cons ix ixs ih =>
    simp only [List.foldlM_cons, List.mapM_cons, bind_eq_ok_iff, Builder.add_eq_ok_iff, ih, pure,
      Except.pure, Except.ok.injEq]
    constructor
    · rintro ⟨_, ⟨good, hg, rfl⟩, goods, hgs, rfl⟩
      exact ⟨good :: goods, ⟨good, hg, goods, hgs, rfl⟩, by simp⟩
    · rintro ⟨_, ⟨good, hg, goods, hgs, rfl⟩, rfl⟩
      exact ⟨_, ⟨good, hg, rfl⟩, goods, hgs, by simp⟩

/-- **When a list of instructions is built, and the transaction.** -/
theorem buildTransaction_eq_ok_iff {ixs : List (Instruction Json Json)} {signers budget : Json}
    {tx : Transaction} :
    buildTransaction ixs signers budget = .ok tx ↔
      ∃ goods ready names units, ixs.mapM Instruction.checked = .ok goods ∧
        readBudget budget = .ok units ∧ readSigners signers = .ok names ∧
        goods.mapM Instruction.withFlags = .ok ready ∧ tx = compile ready names units := by
  simp only [buildTransaction, Builder.build, bind_eq_ok_iff, lift_eq_ok_iff,
    foldlM_add_eq_ok_iff, Except.ok.injEq]
  constructor
  · rintro ⟨_, ⟨goods, hg, rfl⟩, units, hu, names, hn, ready, hr, rfl⟩
    exact ⟨goods, ready, names, units, hg, hu, hn, hr, rfl⟩
  · rintro ⟨goods, ready, names, units, hg, hu, hn, hr, rfl⟩
    exact ⟨_, ⟨goods, hg, rfl⟩, units, hu, names, hn, ready, hr, rfl⟩

/-! ## Instructions that are written down -/

theorem checked_map_iff {ix : Instruction Text Bool} {good : Instruction Text Json} :
    (ix.map Json.str Json.bool).checked = .ok good ↔
      (∀ a ∈ ix.addresses, IsKey a) ∧ good = ix.map id Json.bool := by
  have haddress : ∀ (s t : Text), addressText (.str s) = .ok t ↔ IsKey s ∧ t = s := by
    intro s t
    rw [addressText_eq_ok_iff, Json.str.injEq, eq_comm]
    constructor
    · rintro ⟨rfl, hk⟩
      exact ⟨hk, rfl⟩
    · rintro ⟨hk, rfl⟩
      exact ⟨rfl, hk⟩
  have haccount : ∀ (m : AccountMeta Text Bool) (n : AccountMeta Text Json),
      (m.map Json.str Json.bool).checked = .ok n ↔ IsKey m.pubkey ∧ n = m.map id Json.bool := by
    intro m n
    simp only [AccountMeta.checked, AccountMeta.map, map_eq_ok_iff, haddress, id_eq]
    constructor
    · rintro ⟨_, ⟨hk, rfl⟩, rfl⟩
      exact ⟨hk, rfl⟩
    · rintro ⟨hk, rfl⟩
      exact ⟨_, ⟨hk, rfl⟩, rfl⟩
  simp only [Instruction.checked, Instruction.map, bind_eq_ok_iff, haddress, List.mapM_map,
    Function.comp_def, mapM_eq_ok_iff haccount, Except.ok.injEq, Instruction.addresses,
    List.forall_mem_cons, List.forall_mem_map, id_eq]
  constructor
  · rintro ⟨_, ⟨hp, rfl⟩, _, ⟨ha, rfl⟩, rfl⟩
    exact ⟨⟨hp, ha⟩, rfl⟩
  · rintro ⟨⟨hp, ha⟩, rfl⟩
    exact ⟨_, ⟨hp, rfl⟩, _, ⟨ha, rfl⟩, rfl⟩

/-- **Instructions that are written down are compiled as they stand, when their addresses spell keys
and the budget is read.** -/
theorem build_written_iff {ixs : List (Instruction Text Bool)} {signers : List Text} {budget : Json}
    {tx : Transaction} :
    buildTransaction (ixs.map (Instruction.map Json.str Json.bool)) (Json.strings signers) budget =
        .ok tx ↔
      (∀ ix ∈ ixs, ∀ a ∈ ix.addresses, IsKey a) ∧
        ∃ units, readBudget budget = .ok units ∧ tx = compile ixs signers units := by
  have hflags : (ixs.map (Instruction.map id Json.bool)).mapM Instruction.withFlags =
      (.ok ixs : Attempt _) := mapM_map_of_forall fun ix _ => withFlags_bool ix
  have hsigners : readSigners (Json.strings signers) = .ok signers := by
    rw [Json.strings, readSigners_arr]
    exact mapM_map_of_forall fun s _ => rfl
  simp only [buildTransaction_eq_ok_iff, List.mapM_map, Function.comp_def,
    mapM_eq_ok_iff fun _ _ => checked_map_iff, hsigners, Except.ok.injEq]
  constructor
  · rintro ⟨_, ready, _, units, ⟨hkeys, rfl⟩, hu, rfl, hr, rfl⟩
    rw [hflags, Except.ok.injEq] at hr
    exact ⟨hkeys, units, hu, by rw [hr]⟩
  · rintro ⟨hkeys, units, hu, rfl⟩
    exact ⟨_, ixs, _, units, ⟨hkeys, rfl⟩, hu, rfl, hflags, rfl⟩

/-! ## What is compiled stands for what was given -/

/-- An address of the table is found at its position. -/
theorem address?_idxOf {tx : Transaction} {a : Text} (h : a ∈ tx.accounts) :
    tx.address? (tx.accounts.idxOf a) = some a := by
  have hpos : ¬ ((tx.accounts.idxOf a : Nat) : Int) < 0 := by omega
  rw [Transaction.address?, if_neg hpos, Int.toNat_natCast]
  exact List.getElem?_idxOf h

theorem instruction?_compileInstruction (tx : Transaction) {ix : Instruction Text Bool}
    (h : ∀ a ∈ ix.addresses, a ∈ tx.accounts) :
    tx.instruction? (compileInstruction tx.accounts ix) = some ix := by
  have hp := address?_idxOf (h ix.programId (by simp [Instruction.addresses]))
  have ha : (compileInstruction tx.accounts ix).accounts.mapM tx.accountMeta? =
      some ix.accounts := by
    refine mapM_map_of_forall fun m hm => ?_
    have hm' := address?_idxOf (h m.pubkey (by
      simp only [Instruction.addresses, List.mem_cons, List.mem_map]
      exact .inr ⟨m, hm, rfl⟩))
    simp [Transaction.accountMeta?, hm']
  rw [Transaction.instruction?, ha]
  simp [compileInstruction, hp]

/-- **Nothing is lost: what is compiled stands for the instructions that were given.** -/
theorem decompile_compile (ixs : List (Instruction Text Bool)) (signers : List Text) (budget : Nat) :
    (compile ixs signers budget).decompile = some ixs := by
  refine mapM_map_of_forall fun ix hix => ?_
  exact instruction?_compileInstruction (compile ixs signers budget) fun a ha =>
    mem_accountTable_iff.2 ⟨ix, hix, ha⟩

end CrossVenue
