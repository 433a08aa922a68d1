import CrossVenue.Proofs.Transaction.Faithful

/-!
# Adding instructions

The table of a transaction is collected from all its instructions before any of them is compiled.  Still
an instruction is compiled in the same way whatever is added behind it: the table only grows at its end,
so that an address which it has keeps its position.

* `prefix_accountTable` : more instructions make the table longer and change nothing in it;
* `compileInstruction_eq_of_prefix` : an instruction needs nothing of the table but its own addresses;
* `Transaction.Extends` : a transaction has all of another one, in the same places;
* `build_incremental` : what is built of more instructions extends what is built of the first ones.
-/

set_option autoImplicit false

namespace CrossVenue

/-! ## The table grows at its end -/

theorem prefix_insertNew (table : List Text) (a : Text) : table <+: insertNew table a := by
  unfold insertNew
  split
  · exact List.prefix_refl table
  · exact List.prefix_append table [a]

/-- Whatever is added to a table, it stays what it was up to its end. -/
theorem prefix_foldl_insertNew (table xs : List Text) : table <+: xs.foldl insertNew table := by
  induction xs generalizing table with
  | nil => exact List.prefix_refl table
  | cons x xs ih =>
    rw [List.foldl_cons]
    exact (prefix_insertNew table x).trans (ih (insertNew table x))

/-- **More instructions make the table longer and change nothing in it.** -/
theorem prefix_accountTable (xs ys : List (Instruction Text Bool)) :
    accountTable xs <+: accountTable (xs ++ ys) := by
  rw [accountTable, accountTable, extendTable, extendTable, List.flatMap_append, List.foldl_append]
  exact prefix_foldl_insertNew _ _

/-- An address that a table has keeps its position in every longer one. -/
theorem idxOf_eq_of_prefix {table longer : List Text} (h : table <+: longer) {a : Text}
    (ha : a ∈ table) : longer.idxOf a = table.idxOf a := by
  obtain ⟨rest, rfl⟩ := h
  rw [List.idxOf_append_of_mem ha]

/-! ## Instructions are compiled as before -/

theorem compileInstruction_eq_of_prefix {table longer : List Text} (h : table <+: longer)
    {ix : Instruction Text Bool} (hix : ∀ a ∈ ix.addresses, a ∈ table) :
    compileInstruction longer ix = compileInstruction table ix := by
  have hprogram : longer.idxOf ix.programId = table.idxOf ix.programId :=
    idxOf_eq_of_prefix h (hix _ List.mem_cons_self)
  have hkey : ∀ m ∈ ix.accounts, longer.idxOf m.pubkey = table.idxOf m.pubkey := by
    intro m hm
    exact idxOf_eq_of_prefix h (hix _ (List.mem_cons_of_mem _ (List.mem_map.2 ⟨m, hm, rfl⟩)))
  unfold compileInstruction
  rw [hprogram]
  congr 1
  apply List.map_congr_left
  intro m hm
  rw [hkey m hm]

/-- A transaction has the table of another one at the head of its own, and its instructions first. -/
structure Transaction.Extends (whole part : Transaction) : Prop where
  accounts : part.accounts <+: whole.accounts
  instructions : part.instructions <+: whole.instructions

/-- **What is compiled of more instructions extends what is compiled of the first ones**, whatever the
signers and the budgets are. -/
theorem compile_extends (xs ys : List (Instruction Text Bool)) (signers signers' : List Text)
    (budget budget' : Nat) :
    (compile (xs ++ ys) signers budget).Extends (compile xs signers' budget') where
  accounts := prefix_accountTable xs ys
  instructions := by
    have hfirst : xs.map (compileInstruction (accountTable (xs ++ ys))) =
        xs.map (compileInstruction (accountTable xs)) := by
      apply List.map_congr_left
      intro ix hix
      refine compileInstruction_eq_of_prefix (prefix_accountTable xs ys) ?_
      intro a ha
      exact mem_accountTable_iff.2 ⟨ix, hix, ha⟩
    rw [compile, compile, List.map_append, hfirst]
    exact List.prefix_append _ _

/-! ## What is built -/

/-- The steps over both parts of a list succeed when those over the list do. -/
theorem mapM_append_eq_ok {ε α β : Type} {f : α → Except ε β} {xs ys : List α} {zs : List β}
    (h : (xs ++ ys).mapM f = .ok zs) :
    ∃ first rest, xs.mapM f = .ok first ∧ ys.mapM f = .ok rest ∧ zs = first ++ rest := by
  rw [List.mapM_append] at h
  obtain ⟨first, hfirst, h⟩ := bind_eq_ok_iff.1 h
  obtain ⟨rest, hrest, h⟩ := bind_eq_ok_iff.1 h
  cases h
  exact ⟨first, rest, hfirst, hrest, rfl⟩

/-- **Adding instructions never renumbers an earlier reference.**  If a list of instructions is accepted,
then so is every list that it begins with, with any good signers and budget; the table of that one stands
at the head of the table of the whole, every address of it keeps its position, and its instructions are the
first ones of the whole. -/
theorem build_incremental {xs ys : List (Instruction Json Json)} {signers budget : Json}
    {whole : Transaction} (h : buildTransaction (xs ++ ys) signers budget = .ok whole) :
    ∀ {signers' budget' : Json} {names : List Text} {units : Nat},
      readSigners signers' = .ok names → readBudget budget' = .ok units →
      ∃ part, buildTransaction xs signers' budget' = .ok part ∧
        part.accounts <+: whole.accounts ∧
        (∀ a ∈ part.accounts, whole.accounts.idxOf a = part.accounts.idxOf a) ∧
        part.instructions.length = xs.length ∧
        whole.instructions.take xs.length = part.instructions := by
  intro signers' budget' names units hsigners hbudget
  obtain ⟨goods, ready, names₀, units₀, hgoods, -, -, hready, rfl⟩ := buildTransaction_eq_ok_iff.1 h
  obtain ⟨goods₁, goods₂, hgoods₁, -, rfl⟩ := mapM_append_eq_ok hgoods
  obtain ⟨first, rest, hfirst, -, rfl⟩ := mapM_append_eq_ok hready
  have hpart : buildTransaction xs signers' budget' = .ok (compile first names units) :=
    buildTransaction_eq_ok_iff.2 ⟨goods₁, first, names, units, hgoods₁, hbudget, hsigners, hfirst, rfl⟩
  obtain ⟨haccounts, hinstructions⟩ := compile_extends first rest names₀ names units₀ units
  have hlength : (compile first names units).instructions.length = xs.length := by
    rw [compile, List.length_map, ← (forall₂_of_mapM_ok hfirst).length_eq,
      ← (forall₂_of_mapM_ok hgoods₁).length_eq]
  refine ⟨_, hpart, haccounts, fun a ha => idxOf_eq_of_prefix haccounts ha, hlength, ?_⟩
  rw [← hlength]
  exact (List.prefix_iff_eq_take.1 hinstructions).symm

/-- The second account is created behind the first: of its addresses, those of the program and of the payer
are in the table already. -/
theorem creations_incremental :
    let given := creations.map (Instruction.map Json.str Json.bool)
    let whole := compile creations ["lux1"] 1000
    buildTransaction (given.take 1 ++ given.drop 1) (Json.strings ["lux1"]) (.int 1000) = .ok whole ∧
    (readSigners (Json.strings []) = .ok [] ∧ readBudget (.int 0) = .ok 0) ∧
    whole.accounts.length = 4 ∧
    ∃ part, buildTransaction (given.take 1) (Json.strings []) (.int 0) = .ok part ∧
      part.accounts <+: whole.accounts ∧ part.instructions.length = 1 ∧
      whole.instructions.take 1 = part.instructions := by
  intro given whole
  have hkeys : ∀ ix ∈ creations, ∀ a ∈ ix.addresses, IsKey a := by decide +kernel
  have hs : readSigners (Json.strings []) = .ok [] := rfl
  have hb : readBudget (.int 0) = .ok 0 := rfl
  have hwhole : buildTransaction (given.take 1 ++ given.drop 1) (Json.strings ["lux1"]) (.int 1000) =
      .ok whole := by
    rw [List.take_append_drop]
    exact build_written_iff.2 ⟨hkeys, 1000, rfl, rfl⟩
  obtain ⟨part, hpart, haccounts, -, hlength, htake⟩ := build_incremental hwhole hs hb
  exact ⟨hwhole, ⟨hs, hb⟩, by decide +kernel, part, hpart, haccounts, hlength, htake⟩

end CrossVenue
