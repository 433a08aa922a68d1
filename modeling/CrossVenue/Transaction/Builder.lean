import CrossVenue.Failure
import CrossVenue.Transaction.Compiled

/-!
# Building transactions

A builder holds the instructions that were added to it, in order.  Adding checks every address and
holds the instruction only if all are good; building checks budget and signers, reads the flags of
accounts, and changes nothing.

* `readBudget_eq_ok_iff` : a budget is an integer that a word of 64 bits holds;
* `readSigners_arr` : a list is good when all its items are texts.
-/

set_option autoImplicit false

namespace CrossVenue

/-- The instructions that were added so far. -/
structure Builder where
  held : List (Instruction Text Json)
deriving Repr

/-- The budget of a transaction. -/
def readBudget : Json → Except Rejection Nat
  | .int n =>
    if n < 0 ∨ (maxWord64 : Int) < n then reject (.transaction (.budgetOutside n)) else .ok n.toNat
  | v => reject (.transaction (.budgetNotInteger v.shown))

/-- The text that a value is. -/
def textOf? : Json → Option Text
  | .str s => some s
  | _ => none

/-- The signers of a transaction: the texts of a list, or the names of an object's fields. -/
def readSigners : Json → Attempt (List Text)
  | .arr items =>
    match items.mapM textOf? with
    | some signers => .ok signers
    | none => failWith (.transaction .signersNotTexts)
  | .obj fields => .ok (fields.map (·.1))
  | .str _ => failWith (.transaction .signersNotTexts)
  | _ => breakDown .wrongKind

namespace Builder

/-- The builder that holds nothing. -/
def empty : Builder := ⟨[]⟩

/-- The builder that also holds an instruction. -/
def add (b : Builder) (ix : Instruction Json Json) : Except Rejection Builder :=
  ix.checked.map fun good => ⟨b.held ++ [good]⟩

/-- The transaction of the instructions held. -/
def build (b : Builder) (signers budget : Json) : Attempt Transaction := do
  let budget ← (readBudget budget : Except Rejection Nat)
  let signers ← readSigners signers
  let ixs ← b.held.mapM Instruction.withFlags
  .ok (compile ixs signers budget)

end Builder

/-- The transaction of a list of instructions. -/
def buildTransaction (ixs : List (Instruction Json Json)) (signers budget : Json) :
    Attempt Transaction := do
  let builder ← (ixs.foldlM Builder.add Builder.empty : Except Rejection Builder)
  builder.build signers budget

theorem readBudget_eq_ok_iff {v : Json} {n : Nat} :
    readBudget v = .ok n ↔ v = .int n ∧ n ≤ maxWord64 := by
  unfold readBudget reject
  split
  · rename_i m
    split
    · constructor
      · intro h
        cases h
      · rintro ⟨h, _⟩
        injection h with h
        omega
    · simp only [Except.ok.injEq, Json.int.injEq]
      omega
  · rename_i h
    constructor
    · intro h'
      cases h'
    · rintro ⟨h', _⟩
      exact absurd h' (h n)

theorem readSigners_arr {items : List Json} {signers : List Text} :
    readSigners (.arr items) = .ok signers ↔ items.mapM textOf? = some signers := by
  unfold readSigners failWith
  simp only
  split <;> simp_all

end CrossVenue
