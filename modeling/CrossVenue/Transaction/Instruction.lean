import CrossVenue.Address.Pubkey
import CrossVenue.Failure
import CrossVenue.Schema.Reader

/-!
# Instructions before compilation

An instruction names a program and the accounts that it touches by address, says of each account
whether it signs and is written, and carries data.  Addresses and flags may be any values at first.
Addresses are checked when an instruction is taken up, flags when it is compiled.

* `addressText_eq_ok_iff` : an address is taken as it stands when it is a text that spells a key;
* `withFlags_bool` : flags that are truth values are taken as they stand.
-/

set_option autoImplicit false

namespace CrossVenue

/-- An account that an instruction touches. -/
structure AccountMeta (Address Flag : Type) where
  pubkey : Address
  isSigner : Flag
  isWritable : Flag
deriving DecidableEq, Repr

/-- An instruction that names its accounts by address. -/
structure Instruction (Address Flag : Type) where
  programId : Address
  accounts : List (AccountMeta Address Flag)
  data : Bytes
deriving DecidableEq, Repr

/-- The text of an address that spells a key. -/
def addressText (v : Json) : Except Rejection Text :=
  match v with
  | .str s => (Pubkey.ofText s).map fun _ => s
  | _ => reject (.address (.wrongKind v.kindName))

namespace AccountMeta

variable {α β Flag Mark : Type}

/-- The account with its address and its flags changed. -/
def map (f : α → β) (g : Flag → Mark) (m : AccountMeta α Flag) : AccountMeta β Mark :=
  ⟨f m.pubkey, g m.isSigner, g m.isWritable⟩

/-- The account with a checked address. -/
def checked (m : AccountMeta Json Flag) : Except Rejection (AccountMeta Text Flag) :=
  (addressText m.pubkey).map fun s => ⟨s, m.isSigner, m.isWritable⟩

/-- The account with flags that are read as truth values. -/
def withFlags (m : AccountMeta α Json) : Checked (AccountMeta α Bool) :=
  ((Checked.accepted (AccountMeta.mk m.pubkey)).and
    ((Schema.boolean m.isSigner).under (.field "is_signer"))).and
    ((Schema.boolean m.isWritable).under (.field "is_writable"))

end AccountMeta

namespace Instruction

variable {α β Flag Mark : Type}

/-- The instruction with its addresses and its flags changed. -/
def map (f : α → β) (g : Flag → Mark) (ix : Instruction α Flag) : Instruction β Mark :=
  ⟨f ix.programId, ix.accounts.map (AccountMeta.map f g), ix.data⟩

/-- The instruction with checked addresses: the program's first, then the accounts'. -/
def checked (ix : Instruction Json Flag) : Except Rejection (Instruction Text Flag) := do
  let programId ← addressText ix.programId
  let accounts ← ix.accounts.mapM AccountMeta.checked
  .ok ⟨programId, accounts, ix.data⟩

/-- The instruction with flags that are read as truth values, account by account. -/
def withFlags (ix : Instruction α Json) : Attempt (Instruction α Bool) := do
  let accounts ← ix.accounts.mapM fun m => m.withFlags.attempt
  .ok ⟨ix.programId, accounts, ix.data⟩

/-- The addresses in the order in which they are met: the program, then the accounts. -/
def addresses (ix : Instruction Text Flag) : List Text :=
  ix.programId :: ix.accounts.map (·.pubkey)

end Instruction

theorem AccountMeta.withFlags_bool {α : Type} (m : AccountMeta α Bool) :
    (m.map id Json.bool).withFlags = .accepted m := rfl

theorem withFlags_bool {α : Type} (ix : Instruction α Bool) :
    (ix.map id Json.bool).withFlags = .ok ix := by
  obtain ⟨programId, accounts, data⟩ := ix
  have h : (accounts.map (AccountMeta.map id Json.bool)).mapM
      (fun m => m.withFlags.attempt) = (Except.ok accounts : Attempt _) := by
    induction accounts with
    | nil => rfl
    | cons m rest ih =>
      rw [List.map_cons, List.mapM_cons, ih, AccountMeta.withFlags_bool]
      rfl
  simp only [Instruction.withFlags, Instruction.map, h]
  rfl

theorem addressText_eq_ok_iff {v : Json} {s : Text} :
    addressText v = .ok s ↔ v = .str s ∧ ∃ k, Pubkey.ofText s = .ok k := by
  unfold addressText
  split
  · rename_i t
    constructor
    · intro h
      cases hk : Pubkey.ofText t with
      | error e => rw [hk] at h; cases h
      | ok k =>
        rw [hk] at h
        injection h with h
        subst h
        exact ⟨rfl, k, hk⟩
    · rintro ⟨h, k, hk⟩
      injection h with h
      subst h
      rw [hk]
      rfl
  · rename_i h
    constructor
    · intro h'
      cases h'
    · rintro ⟨h', _⟩
      exact absurd h' (h s)

end CrossVenue
