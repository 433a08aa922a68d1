import CrossVenue.Proofs.Transaction.Build
import Mathlib.Data.Set.List

/-!
# Which signers and budgets are accepted

Signers are meant to be a list of texts and the budget an integer of 64 bits.  The budget is checked as such;
of the signers it is only asked that they are not a text and that whatever they consist of is one, so the
names of an object's fields are accepted too, and what consists of nothing is neither accepted nor rejected.

* `readBudget_eq_error`, `readSigners_eq_ok_iff`, `readSigners_eq_error` : how both are read;
* `Builder.build_eq_ok_iff` : what is built, from what;
* `Builder.Refuses`, `Builder.refuses_of_build` : what is not, and why;
* `signers_and_budgets_judged` : every builder, with whatever it is to build.
-/

set_option autoImplicit false

namespace CrossVenue

/-! ## Budgets and signers -/

/-- A budget that a word of 64 bits holds. -/
def IsBudget (v : Json) (n : Nat) : Prop := v = .int n ∧ n ≤ maxWord64

/-- The texts that are given as signers: a list of them, or the names of the fields of an object. -/
inductive GivesSigners : Json → List Text → Prop
  | list (names : List Text) : GivesSigners (Json.strings names) names
  | fields (fields : List (Text × Json)) : GivesSigners (.obj fields) (fields.map (·.1))

/-- Texts, and lists of which an item is none. -/
inductive HoldsOther : Json → Prop
  | text (s : Text) : HoldsOther (.str s)
  | list {items : List Json} {v : Json} : v ∈ items → (∀ s, v ≠ .str s) → HoldsOther (.arr items)

/-- Values that consist of nothing: null, truth values and numbers. -/
inductive IsAtomic : Json → Prop
  | null : IsAtomic .null
  | bool (b : Bool) : IsAtomic (.bool b)
  | int (n : Int) : IsAtomic (.int n)
  | float (x : Binary64) : IsAtomic (.float x)

/-- Why a budget is rejected. -/
inductive BudgetFault (budget : Json) : TransactionFault → Prop
  | kind : (∀ n, budget ≠ .int n) → BudgetFault budget (.budgetNotInteger budget.shown)
  | range {n : Int} : budget = .int n → n < 0 ∨ (maxWord64 : Int) < n →
      BudgetFault budget (.budgetOutside n)

theorem readBudget_eq_error {budget : Json} {r : Rejection} (h : readBudget budget = .error r) :
    ∃ fault, r = ⟨.transaction fault, ""⟩ ∧ BudgetFault budget fault := by
  unfold readBudget at h
  split at h
  · split at h
    · rename_i hrange
      cases h
      exact ⟨_, rfl, .range rfl hrange⟩
    · cases h
  · rename_i hkind
    cases h
    exact ⟨_, rfl, .kind hkind⟩

theorem mapM_textOf?_eq_some_iff {items : List Json} {names : List Text} :
    items.mapM textOf? = some names ↔ items = names.map Json.str := by
  induction items generalizing names with
  | nil => simp [eq_comm]
  | cons v items ih =>
    simp only [List.mapM_cons, Option.bind_eq_bind, Option.bind_eq_some_iff, Option.pure_def,
      Option.some.injEq, ih]
    constructor
    · rintro ⟨s, hs, rest, rfl, rfl⟩
      cases v with
      | str t =>
        cases hs
        rfl
      | _ => cases hs
    · intro h
      cases names with
      | nil => cases h
      | cons s rest =>
        cases h
        exact ⟨s, rfl, rest, rfl, rfl⟩

/-- **Which signers are read.** -/
theorem readSigners_eq_ok_iff {signers : Json} {names : List Text} :
    readSigners signers = .ok names ↔ GivesSigners signers names := by
  constructor
  · intro h
    cases signers with
    | arr items =>
      rw [readSigners_arr, mapM_textOf?_eq_some_iff] at h
      rw [h]
      exact .list names
    | obj fields =>
      cases h
      exact .fields fields
    | _ => cases h
  · rintro (_ | _)
    · rw [Json.strings, readSigners_arr, mapM_textOf?_eq_some_iff]
    · rfl

theorem exists_not_text {items : List Json} (h : items.mapM textOf? = none) :
    ∃ v ∈ items, ∀ s, v ≠ .str s := by
  by_contra hall
  have hrange : items ∈ Set.range (List.map Json.str) := by
    rw [Set.range_list_map]
    intro v hv
    by_contra hother
    exact hall ⟨v, hv, fun s hs => hother ⟨s, hs.symm⟩⟩
  obtain ⟨names, hnames⟩ := hrange
  rw [mapM_textOf?_eq_some_iff.2 hnames.symm] at h
  cases h

/-- **Which signers are not read**: those that hold another value than a text are rejected, and those that
hold nothing are not foreseen. -/
theorem readSigners_eq_error {signers : Json} {e : Failure} (h : readSigners signers = .error e) :
    HoldsOther signers ∧ e = .rejected ⟨.transaction .signersNotTexts, ""⟩ ∨
      IsAtomic signers ∧ e = .broken .wrongKind := by
  have hrejected : (failWith (.transaction .signersNotTexts) : Attempt (List Text)) =
      .error (.rejected ⟨.transaction .signersNotTexts, ""⟩) :=
    congrArg Except.error (failure_of_isWritable (r := ⟨.transaction .signersNotTexts, ""⟩) rfl)
  cases signers with
  | arr items =>
    cases hitems : items.mapM textOf? with
    | some names =>
      rw [readSigners_arr.2 hitems] at h
      cases h
    | none =>
      obtain ⟨v, hv, hother⟩ := exists_not_text hitems
      simp only [readSigners, hitems, hrejected] at h
      exact .inl ⟨.list hv hother, (Except.error.inj h).symm⟩
  | str s =>
    simp only [readSigners, hrejected] at h
    exact .inl ⟨.text s, (Except.error.inj h).symm⟩
  | obj fields => cases h
  | null => exact .inr ⟨.null, (Except.error.inj h).symm⟩
  | bool b => exact .inr ⟨.bool b, (Except.error.inj h).symm⟩
  | int n => exact .inr ⟨.int n, (Except.error.inj h).symm⟩
  | float x => exact .inr ⟨.float x, (Except.error.inj h).symm⟩

/-! ## Building -/

namespace Builder

variable {b : Builder} {signers budget : Json}

/-- A builder holds instructions with truth values as flags. -/
def HoldsFlagged (b : Builder) (ixs : List (Instruction Text Bool)) : Prop :=
  b.held = ixs.map (Instruction.map id Json.bool)

theorem HoldsFlagged.withFlags {ixs : List (Instruction Text Bool)} (h : b.HoldsFlagged ixs) :
    b.held.mapM Instruction.withFlags = .ok ixs := by
  rw [h]
  exact mapM_map_of_forall fun ix _ => withFlags_bool ix

/-- What was added with truth values as flags is held with them. -/
theorem holdsFlagged_of_added {ixs : List (Instruction Text Bool)}
    (h : (ixs.map (Instruction.map Json.str Json.bool)).foldlM add empty = .ok b) : b.HoldsFlagged ixs := by
  obtain ⟨goods, hgoods, rfl⟩ := foldlM_add_eq_ok_iff.1 h
  rw [List.mapM_map] at hgoods
  exact ((mapM_eq_ok_iff fun _ _ => checked_map_iff).1 hgoods).2

/-- **What is built, and from what.** -/
theorem build_eq_ok_iff {tx : Transaction} :
    b.build signers budget = .ok tx ↔ ∃ names units ready, GivesSigners signers names ∧
      IsBudget budget units ∧ b.held.mapM Instruction.withFlags = .ok ready ∧
        tx = compile ready names units := by
  simp only [build, bind_eq_ok_iff, lift_eq_ok_iff, readBudget_eq_ok_iff, readSigners_eq_ok_iff,
    Except.ok.injEq, IsBudget]
  constructor
  · rintro ⟨units, hunits, names, hnames, ready, hready, rfl⟩
    exact ⟨names, units, ready, hnames, hunits, hready, rfl⟩
  · rintro ⟨names, units, ready, hnames, hunits, hready, rfl⟩
    exact ⟨units, hunits, names, hnames, ready, hready, rfl⟩

/-- Why nothing is built.  The budget is looked at first, then the signers, then the flags of accounts. -/
inductive Refuses (b : Builder) (signers budget : Json) : Failure → Prop
  /-- A budget that is none is rejected. -/
  | budget {fault : TransactionFault} : BudgetFault budget fault →
      Refuses b signers budget (Rejection.failure ⟨.transaction fault, ""⟩)
  /-- So are signers that hold another value than a text. -/
  | signers {units : Nat} : IsBudget budget units → HoldsOther signers →
      Refuses b signers budget (.rejected ⟨.transaction .signersNotTexts, ""⟩)
  /-- What holds nothing is not foreseen as signers. -/
  | atomic {units : Nat} : IsBudget budget units → IsAtomic signers →
      Refuses b signers budget (.broken .wrongKind)
  /-- A flag that is no truth value is an issue of its account. -/
  | flags {units : Nat} {names : List Text} {ix : Instruction Text Json} {m : AccountMeta Text Json}
      {issues : List Issue} : IsBudget budget units → GivesSigners signers names → ix ∈ b.held →
      m ∈ ix.accounts → m.withFlags = .refused issues → Refuses b signers budget (.invalid issues)

theorem exists_refused_flags {held : List (Instruction Text Json)} {e : Failure}
    (h : held.mapM Instruction.withFlags = .error e) :
    ∃ ix ∈ held, ∃ m ∈ ix.accounts, ∃ issues, m.withFlags = .refused issues ∧ e = .invalid issues := by
  obtain ⟨before, ix, after, rfl, -, hix⟩ := mapM_eq_error_iff.1 h
  refine ⟨ix, by simp, ?_⟩
  rcases bind_eq_error_iff.1 hix with hix | ⟨_, -, hix⟩
  · obtain ⟨before, m, after, haccounts, -, hm⟩ := mapM_eq_error_iff.1 hix
    refine ⟨m, by simp [haccounts], ?_⟩
    cases hflags : m.withFlags with
    | accepted ready =>
      rw [hflags] at hm
      cases hm
    | refused issues =>
      rw [hflags] at hm
      exact ⟨issues, rfl, (Except.error.inj hm).symm⟩
  · cases hix

/-- **Why nothing is built.** -/
theorem refuses_of_build {e : Failure} (h : b.build signers budget = .error e) :
    Refuses b signers budget e := by
  rw [build] at h
  rcases bind_eq_error_iff.1 h with h | ⟨units, hunits, h⟩
  · cases hbudget : readBudget budget with
    | ok units =>
      rw [hbudget] at h
      cases h
    | error r =>
      obtain ⟨fault, rfl, hfault⟩ := readBudget_eq_error hbudget
      rw [hbudget] at h
      have he : Rejection.failure ⟨.transaction fault, ""⟩ = e := Except.error.inj h
      rw [← he]
      exact .budget hfault
  rw [lift_eq_ok_iff, readBudget_eq_ok_iff] at hunits
  rcases bind_eq_error_iff.1 h with h | ⟨names, hnames, h⟩
  · rcases readSigners_eq_error h with ⟨hother, rfl⟩ | ⟨hatomic, rfl⟩
    · exact .signers hunits hother
    · exact .atomic hunits hatomic
  rw [readSigners_eq_ok_iff] at hnames
  rcases bind_eq_error_iff.1 h with h | ⟨ready, -, h⟩
  · obtain ⟨ix, hix, m, hm, issues, hissues, rfl⟩ := exists_refused_flags h
    exact .flags hunits hnames hix hm hissues
  · cases h

/-- How a builder judges signers and a budget. -/
structure Judges (b : Builder) (signers budget : Json) : Prop where
  /-- What was added with truth values as flags is held so. -/
  added : ∀ ixs : List (Instruction Text Bool),
    (ixs.map (Instruction.map Json.str Json.bool)).foldlM add empty = .ok b → b.HoldsFlagged ixs
  /-- What is built is the transaction of what is held, with the signers and the budget that are given. -/
  built : ∀ ixs, b.HoldsFlagged ixs → ∀ tx, b.build signers budget = .ok tx ↔
    GivesSigners signers tx.signers ∧ IsBudget budget tx.computeBudget ∧
      tx = compile ixs tx.signers tx.computeBudget
  /-- All signers are accepted that are a list of texts, and no others but objects. -/
  accepted_iff : (∀ fields, signers ≠ .obj fields) → ∀ ixs, b.HoldsFlagged ixs →
    ((∃ tx, b.build signers budget = .ok tx) ↔
      (∃ names, signers = Json.strings names) ∧ ∃ n : Nat, budget = .int n ∧ n ≤ maxWord64)
  /-- What is not built has a reason. -/
  refused : ∀ e, b.build signers budget = .error e → Refuses b signers budget e

end Builder

open Builder

/-- **Signers and budgets, accepted and refused**, by every builder. -/
theorem signers_and_budgets_judged (b : Builder) (signers budget : Json) : Judges b signers budget where
  added _ := holdsFlagged_of_added
  built ixs hixs tx := by
    rw [build_eq_ok_iff]
    constructor
    · rintro ⟨names, units, ready, hnames, hunits, hready, rfl⟩
      rw [hixs.withFlags, Except.ok.injEq] at hready
      subst hready
      exact ⟨hnames, hunits, rfl⟩
    · rintro ⟨hnames, hunits, htx⟩
      exact ⟨_, _, _, hnames, hunits, hixs.withFlags, htx⟩
  accepted_iff hobject ixs hixs := by
    simp only [build_eq_ok_iff]
    constructor
    · rintro ⟨_, names, units, ready, hnames, hunits, -⟩
      cases hnames with
      | list => exact ⟨⟨names, rfl⟩, units, hunits⟩
      | fields fields => exact absurd rfl (hobject fields)
    · rintro ⟨⟨names, rfl⟩, units, hunits⟩
      exact ⟨_, names, units, ixs, .list names, hunits, hixs.withFlags, rfl⟩
  refused _ := refuses_of_build

/-- **Signers that are no list**: null is not rejected, and an object is accepted with the names of its
fields. -/
theorem signers_beyond_lists :
    Builder.empty.build .null (.int 1) = .error (.broken .wrongKind) ∧
      (∃ tx, Builder.empty.build (.obj [("alice", .null)]) (.int 1) = .ok tx ∧ tx.signers = ["alice"]) ∧
      ∀ names, Json.obj [("alice", .null)] ≠ Json.strings names :=
  ⟨rfl, ⟨_, rfl, rfl⟩, fun _ h => by cases h⟩

end CrossVenue
