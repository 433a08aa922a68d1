import CrossVenue.Proofs.Address.Spelling
import CrossVenue.Proofs.Transaction.Faithful
import CrossVenue.Transaction.Session

/-!
# Keys of a table

Addresses are checked as keys and kept as texts.  A key has one written form, so two texts spell one key
exactly when they differ in nothing but blanks at their ends, which checking drops and the table keeps.

* `session_holdsKeys` : whatever a session holds is addressed by keys;
* `built_spelled` : a table lists every key once exactly when no two entries differ only in such blanks;
* `key_listed_twice` : so it may list a key twice.
-/

set_option autoImplicit false

namespace CrossVenue

/-! ## What builders hold -/

/-- All addresses of an instruction spell keys. -/
def Instruction.HasKeys {Flag : Type} (ix : Instruction Text Flag) : Prop :=
  ∀ a ∈ ix.addresses, IsKey a

theorem AccountMeta.isKey_of_checked {Flag : Type} {m : AccountMeta Json Flag}
    {good : AccountMeta Text Flag} (h : m.checked = .ok good) : IsKey good.pubkey := by
  simp only [checked, map_eq_ok_iff, addressText_eq_ok_iff] at h
  obtain ⟨a, ⟨-, ha⟩, rfl⟩ := h
  exact ha

theorem Instruction.hasKeys_of_checked {ix : Instruction Json Json} {good : Instruction Text Json}
    (h : ix.checked = .ok good) : good.HasKeys := by
  simp only [checked, bind_eq_ok_iff, addressText_eq_ok_iff, Except.ok.injEq] at h
  obtain ⟨p, ⟨-, hp⟩, accounts, haccounts, rfl⟩ := h
  simp only [HasKeys, addresses, List.forall_mem_cons, List.forall_mem_map]
  refine ⟨hp, fun m hm => ?_⟩
  obtain ⟨given, -, hgiven⟩ := (mem_iff_of_mapM_ok haccounts).1 hm
  exact AccountMeta.isKey_of_checked hgiven

theorem AccountMeta.pubkey_of_withFlags {m : AccountMeta Text Json} {ready : AccountMeta Text Bool}
    (h : m.withFlags.attempt = .ok ready) : ready.pubkey = m.pubkey := by
  simp only [attempt_eq_ok_iff, withFlags, Checked.and_eq_accepted_iff] at h
  obtain ⟨_, written, ⟨_, signer, hmk, -, rfl⟩, -, rfl⟩ := h
  cases hmk
  rfl

/-- Reading flags changes no address. -/
theorem Instruction.addresses_of_withFlags {ix : Instruction Text Json} {ready : Instruction Text Bool}
    (h : ix.withFlags = .ok ready) : ready.addresses = ix.addresses := by
  simp only [withFlags, bind_eq_ok_iff, Except.ok.injEq] at h
  obtain ⟨accounts, haccounts, rfl⟩ := h
  have hkeys : accounts.map (·.pubkey) = ix.accounts.map (·.pubkey) :=
    map_eq_of_mapM_ok (fun _ _ => AccountMeta.pubkey_of_withFlags) haccounts
  rw [addresses, addresses, hkeys]

namespace Builder

/-- All instructions that a builder holds are addressed by keys. -/
def HoldsKeys (b : Builder) : Prop := ∀ ix ∈ b.held, ix.HasKeys

theorem holdsKeys_add {b c : Builder} {ix : Instruction Json Json} (hb : b.HoldsKeys)
    (h : b.add ix = .ok c) : c.HoldsKeys := by
  obtain ⟨good, hgood, rfl⟩ := add_eq_ok_iff.1 h
  intro jx hjx
  rcases List.mem_append.1 hjx with hjx | hjx
  · exact hb jx hjx
  · rw [List.mem_singleton] at hjx
    exact hjx ▸ Instruction.hasKeys_of_checked hgood

theorem holdsKeys_step {b c : Builder} {s : SessionStep} {answer : SessionAnswer} (hb : b.HoldsKeys)
    (h : b.step s = .ok (answer, c)) : c.HoldsKeys := by
  cases s with
  | add ix =>
    simp only [step, bind_eq_ok_iff, lift_eq_ok_iff, Except.ok.injEq, Prod.mk.injEq] at h
    obtain ⟨after, hafter, -, rfl⟩ := h
    exact holdsKeys_add hb hafter
  | build signers budget => exact step_build_state h ▸ hb
  | reset =>
    cases h
    exact fun ix hix => by cases hix

/-- **Whatever a session holds is addressed by keys.** -/
theorem session_holdsKeys (steps : List SessionStep) :
    (runSteps step empty steps).2.HoldsKeys :=
  runSteps_induction (fun _ _ _ _ hb h => holdsKeys_step hb h) (fun ix hix => by cases hix) steps

theorem foldlM_holdsKeys {ixs : List (Instruction Json Json)} {b : Builder}
    (h : ixs.foldlM add empty = .ok b) : b.HoldsKeys := by
  obtain ⟨goods, hgoods, rfl⟩ := foldlM_add_eq_ok_iff.1 h
  intro good hgood
  obtain ⟨ix, -, hix⟩ := (mem_iff_of_mapM_ok hgoods).1 hgood
  exact Instruction.hasKeys_of_checked hix

/-- The addresses of what is built from keys spell keys. -/
theorem HoldsKeys.isKey {b : Builder} (hb : b.HoldsKeys) {signers budget : Json} {tx : Transaction}
    (h : b.build signers budget = .ok tx) : ∀ a ∈ tx.accounts, IsKey a := by
  simp only [build, bind_eq_ok_iff, lift_eq_ok_iff, Except.ok.injEq] at h
  obtain ⟨_, -, _, -, ready, hready, rfl⟩ := h
  have haddresses : ready.map Instruction.addresses = b.held.map Instruction.addresses :=
    map_eq_of_mapM_ok (fun _ _ => Instruction.addresses_of_withFlags) hready
  intro a ha
  obtain ⟨ix, hix, hmem⟩ := mem_accountTable_iff.1 ha
  have hheld : ix.addresses ∈ b.held.map Instruction.addresses :=
    haddresses ▸ List.mem_map.2 ⟨ix, hix, rfl⟩
  obtain ⟨jx, hjx, heq⟩ := List.mem_map.1 hheld
  exact hb jx hjx a (heq ▸ hmem)

end Builder

/-! ## What tables list -/

theorem Pubkey.mem_keys_iff {table : List Text} {keys : List Pubkey} {a : Text} {k : Pubkey}
    (hkeys : table.mapM ofText = .ok keys) (ha : ofText a = .ok k) (htable : ∀ b ∈ table, IsKey b) :
    k ∈ keys ↔ a.trimmedEnd ∈ table.map Text.trimmedEnd := by
  rw [mem_iff_of_mapM_ok hkeys, List.mem_map]
  constructor
  · rintro ⟨b, hb, hbk⟩
    exact ⟨b, hb, (ofText_eq_ofText_iff hbk ha).1 rfl⟩
  · rintro ⟨b, hb, heq⟩
    obtain ⟨l, hl⟩ := htable b hb
    exact ⟨b, hb, (ofText_eq_ofText_iff hl ha).2 heq ▸ hl⟩

/-- **Texts spell different keys when they differ without the blanks at their ends.** -/
theorem Pubkey.exists_nodup_keys_iff {table : List Text} (htable : ∀ a ∈ table, IsKey a) :
    (∃ keys, table.mapM ofText = .ok keys ∧ keys.Nodup) ↔ (table.map Text.trimmedEnd).Nodup := by
  induction table with
  | nil => exact iff_of_true ⟨[], rfl, List.nodup_nil⟩ List.nodup_nil
  | cons a table ih =>
    rw [List.forall_mem_cons] at htable
    obtain ⟨k, hk⟩ := htable.1
    rw [List.map_cons, List.nodup_cons, ← ih htable.2]
    simp only [List.mapM_cons, hk, bind_eq_ok_iff, pure, Except.pure, Except.ok.injEq]
    constructor
    · rintro ⟨_, ⟨_, rfl, keys, hkeys, rfl⟩, hnodup⟩
      rw [List.nodup_cons, mem_keys_iff hkeys hk htable.2] at hnodup
      exact ⟨hnodup.1, keys, hkeys, hnodup.2⟩
    · rintro ⟨hnew, keys, hkeys, hnodup⟩
      rw [← mem_keys_iff hkeys hk htable.2] at hnew
      exact ⟨k :: keys, ⟨k, rfl, keys, hkeys, rfl⟩, List.nodup_cons.2 ⟨hnew, hnodup⟩⟩

/-- Every entry of a table is a key's written form with nothing but blanks behind it, and the keys are all
different exactly when entries are, without their blanks. -/
structure Transaction.Spelled (tx : Transaction) : Prop where
  isKey : ∀ a ∈ tx.accounts, ∃ k, Pubkey.ofText a = .ok k ∧ a.trimmedEnd = k.toText
  keys_nodup_iff : (∃ keys, tx.accounts.mapM Pubkey.ofText = .ok keys ∧ keys.Nodup) ↔
    (tx.accounts.map Text.trimmedEnd).Nodup

theorem Builder.HoldsKeys.spelled {b : Builder} (hb : b.HoldsKeys) {signers budget : Json}
    {tx : Transaction} (h : b.build signers budget = .ok tx) : tx.Spelled where
  isKey := by
    intro a ha
    obtain ⟨k, hk⟩ := hb.isKey h a ha
    exact ⟨k, hk, Pubkey.trimmedEnd_of_ofText hk⟩
  keys_nodup_iff := Pubkey.exists_nodup_keys_iff (hb.isKey h)

/-- **When a table lists every key once**, whether its instructions were given at once or added in a
session: when no two of its entries differ in nothing but blanks at their ends. -/
theorem built_spelled {tx : Transaction}
    (h : (∃ ixs signers budget, buildTransaction ixs signers budget = .ok tx) ∨
      ∃ steps signers budget,
        (runSteps Builder.step Builder.empty steps).2.build signers budget = .ok tx) :
    tx.Spelled := by
  rcases h with ⟨ixs, signers, budget, h⟩ | ⟨steps, signers, budget, h⟩
  · simp only [buildTransaction, bind_eq_ok_iff, lift_eq_ok_iff] at h
    obtain ⟨b, hb, hbuild⟩ := h
    exact (Builder.foldlM_holdsKeys hb).spelled hbuild
  · exact (Builder.session_holdsKeys steps).spelled h

/-- The creations again, built at once and in a session that starts with an instruction which is refused. -/
theorem creations_spelled :
    let given := creations.map (Instruction.map Json.str Json.bool)
    let steps := SessionStep.add ⟨.str "0OIl", [], []⟩ :: given.map SessionStep.add
    let tx := compile creations [] 0
    (buildTransaction given (Json.strings []) (.int 0) = .ok tx ∧
      (runSteps Builder.step Builder.empty steps).2.build (Json.strings []) (.int 0) = .ok tx) ∧
    tx.Spelled ∧ ∃ keys, tx.accounts.mapM Pubkey.ofText = .ok keys ∧ keys.Nodup := by
  intro given steps tx
  have hbuild : buildTransaction given (Json.strings []) (.int 0) = .ok tx := by decide +kernel
  have hsession : (runSteps Builder.step Builder.empty steps).2.build (Json.strings []) (.int 0) =
      .ok tx := by decide +kernel
  have hnodup : (tx.accounts.map Text.trimmedEnd).Nodup := by decide +kernel
  exact ⟨⟨hbuild, hsession⟩, built_spelled (.inl ⟨_, _, _, hbuild⟩),
    (built_spelled (.inr ⟨_, _, _, hsession⟩)).keys_nodup_iff.2 hnodup⟩

/-- **A table may list a key twice**: an instruction names its program among its accounts, with a blank
behind it. -/
theorem key_listed_twice :
    ∃ tx k, buildTransaction
        [⟨.str "11111111111111111111111111111111",
          [⟨.str "11111111111111111111111111111111 ", .bool false, .bool false⟩], []⟩]
        (Json.strings []) (.int 0) = .ok tx ∧
      tx.accounts.mapM Pubkey.ofText = .ok [k, k] := by
  let program : Text := "11111111111111111111111111111111"
  let ix : Instruction Text Bool :=
    ⟨program, [⟨"11111111111111111111111111111111 ", false, false⟩], []⟩
  exact ⟨compile [ix] [] 0, ⟨List.replicate 32 0, rfl⟩, by decide +kernel, by decide +kernel⟩

end CrossVenue
