import CrossVenue.Number.Word
import CrossVenue.Transaction.Instruction

/-!
# Compiled transactions

A compiled transaction lists every address once, in the order in which addresses are first met, and
its instructions refer to addresses by their position in that table.

* `mem_accountTable_iff`, `accountTable_nodup` : what the table holds, and that it holds nothing twice;
* `decompile` : the instructions that a transaction stands for.
-/

set_option autoImplicit false

namespace CrossVenue

/-- A reference to an account. -/
structure AccountReference where
  /-- The position in the table of the transaction. -/
  idIndex : Int
  callerIndex : Int
  /-- The first position within the instruction that holds the same address. -/
  calleeIndex : Int
  isSigner : Bool
  isWritable : Bool
deriving DecidableEq, Repr

/-- An instruction that names its accounts by position. -/
structure CompiledInstruction where
  programIndex : Int
  accounts : List AccountReference
  data : Bytes
deriving DecidableEq, Repr

/-- A transaction that is executed on behalf of its signers. -/
structure Transaction where
  signers : List Text
  accounts : List Text
  instructions : List CompiledInstruction
  computeBudget : Nat
deriving DecidableEq, Repr

/-- The table with an address at its end, unless it holds the address. -/
def insertNew (table : List Text) (address : Text) : List Text :=
  if address ∈ table then table else table ++ [address]

/-- The table with all addresses of instructions added in order. -/
def extendTable (table : List Text) (ixs : List (Instruction Text Bool)) : List Text :=
  (ixs.flatMap Instruction.addresses).foldl insertNew table

/-- The addresses of instructions, each once, in the order in which they are first met. -/
def accountTable (ixs : List (Instruction Text Bool)) : List Text := extendTable [] ixs

/-- The instruction with its addresses replaced by positions. -/
def compileInstruction (table : List Text) (ix : Instruction Text Bool) : CompiledInstruction :=
  { programIndex := table.idxOf ix.programId
    accounts := ix.accounts.map fun m =>
      { idIndex := table.idxOf m.pubkey
        callerIndex := table.idxOf m.pubkey
        calleeIndex := (ix.accounts.map (·.pubkey)).idxOf m.pubkey
        isSigner := m.isSigner
        isWritable := m.isWritable }
    data := ix.data }

/-- The transaction of instructions, signers and a budget. -/
def compile (ixs : List (Instruction Text Bool)) (signers : List Text) (budget : Nat) : Transaction :=
  { signers := signers
    accounts := accountTable ixs
    instructions := ixs.map (compileInstruction (accountTable ixs))
    computeBudget := budget }

/-- The address at a position. -/
def Transaction.address? (tx : Transaction) (index : Int) : Option Text :=
  if index < 0 then none else tx.accounts[index.toNat]?

/-- The account that a reference stands for. -/
def Transaction.accountMeta? (tx : Transaction) (r : AccountReference) :
    Option (AccountMeta Text Bool) :=
  (tx.address? r.idIndex).map fun a => ⟨a, r.isSigner, r.isWritable⟩

/-- The instruction that a compiled one stands for. -/
def Transaction.instruction? (tx : Transaction) (ix : CompiledInstruction) :
    Option (Instruction Text Bool) := do
  let programId ← tx.address? ix.programIndex
  let accounts ← ix.accounts.mapM tx.accountMeta?
  some ⟨programId, accounts, ix.data⟩

/-- The instructions that a transaction stands for. -/
def Transaction.decompile (tx : Transaction) : Option (List (Instruction Text Bool)) :=
  tx.instructions.mapM tx.instruction?

theorem mem_insertNew_iff {table : List Text} {a b : Text} :
    b ∈ insertNew table a ↔ b ∈ table ∨ b = a := by
  unfold insertNew
  split
  · constructor
    · exact Or.inl
    · rintro (h | rfl) <;> assumption
  · simp

theorem insertNew_nodup {table : List Text} {a : Text} (h : table.Nodup) :
    (insertNew table a).Nodup := by
  unfold insertNew
  split
  · exact h
  · rename_i ha
    rw [List.nodup_append]
    refine ⟨h, by simp, ?_⟩
    rintro x hx y hy rfl
    simp only [List.mem_singleton] at hy
    exact ha (hy ▸ hx)

theorem foldl_insertNew_nodup {table xs : List Text} (h : table.Nodup) :
    (xs.foldl insertNew table).Nodup := by
  induction xs generalizing table with
  | nil => exact h
  | cons x xs ih => exact ih (insertNew_nodup h)

theorem mem_foldl_insertNew_iff {table xs : List Text} {b : Text} :
    b ∈ xs.foldl insertNew table ↔ b ∈ table ∨ b ∈ xs := by
  induction xs generalizing table with
  | nil => simp
  | cons x xs ih =>
    simp only [List.foldl_cons, ih, mem_insertNew_iff, List.mem_cons]
    constructor
    · rintro ((h | h) | h)
      · exact Or.inl h
      · exact Or.inr (Or.inl h)
      · exact Or.inr (Or.inr h)
    · rintro (h | h | h)
      · exact Or.inl (Or.inl h)
      · exact Or.inl (Or.inr h)
      · exact Or.inr h

theorem mem_accountTable_iff {ixs : List (Instruction Text Bool)} {a : Text} :
    a ∈ accountTable ixs ↔ ∃ ix ∈ ixs, a ∈ ix.addresses := by
  simp [accountTable, extendTable, mem_foldl_insertNew_iff]

theorem accountTable_nodup (ixs : List (Instruction Text Bool)) : (accountTable ixs).Nodup :=
  foldl_insertNew_nodup List.nodup_nil

end CrossVenue
