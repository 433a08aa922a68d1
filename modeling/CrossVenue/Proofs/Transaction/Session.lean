import CrossVenue.Proofs.Reported
import CrossVenue.Proofs.Transaction.Accepted
import CrossVenue.Proofs.Transaction.Keys

/-!
# Sessions step by step

What a session answers depends on the instructions that were taken up since it last started over, and on
nothing else.  An instruction is taken up when all its addresses are keys; one with a bad address leaves no
trace, wherever the address stands, and neither does building.

* `Instruction.checked_eq_error_iff` : the first bad address decides how an instruction is refused;
* `SessionStep.takeUp`, `SessionStep.answer` : what a step does to the instructions that were taken up, and
  what it is answered, both said without a builder;
* `Builder.settleStep_of_holds`, `Builder.holds_runSteps` : one step, and a whole session;
* `Builder.build_sparesAddresses` : how building may fail;
* `Builder.session_atomic` : every step of every session.
-/

set_option autoImplicit false

namespace CrossVenue

/-! ## Addresses as they are given -/

/-- Is a value taken as a key? -/
def IsAddress (v : Json) : Prop := ∃ k, Pubkey.ofJson v = .ok k

theorem isAddress_iff {v : Json} : IsAddress v ↔ (Pubkey.ofJson v).toOption.isSome = true := by
  unfold IsAddress
  cases Pubkey.ofJson v <;> simp [Except.toOption]

instance (v : Json) : Decidable (IsAddress v) := decidable_of_iff _ isAddress_iff.symm

theorem addressText_eq_error_iff {v : Json} {r : Rejection} :
    addressText v = .error r ↔ Pubkey.ofJson v = .error r := by
  cases v with
  | str s => exact map_eq_error_iff
  | _ => simp [addressText, Pubkey.ofJson, reject]

theorem AccountMeta.checked_eq_error_iff {m : AccountMeta Json Json} {r : Rejection} :
    m.checked = .error r ↔ Pubkey.ofJson m.pubkey = .error r := by
  rw [checked, map_eq_error_iff, addressText_eq_error_iff]

namespace Instruction

/-- The addresses that are given, in the order in which they are checked. -/
def givenAddresses (ix : Instruction Json Json) : List Json := ix.programId :: ix.accounts.map (·.pubkey)

/-- All addresses that are given are taken as keys. -/
def IsAddressed (ix : Instruction Json Json) : Prop := ∀ v ∈ ix.givenAddresses, IsAddress v

instance (ix : Instruction Json Json) : Decidable ix.IsAddressed :=
  inferInstanceAs (Decidable (∀ v ∈ ix.givenAddresses, IsAddress v))

/-- The keys that are given, or how the first address that is none is rejected. -/
def givenKeys (ix : Instruction Json Json) : Except Rejection (List Pubkey) :=
  ix.givenAddresses.mapM Pubkey.ofJson

/-- **The first bad address decides how an instruction is refused**, be it the program's or an account's. -/
theorem checked_eq_error_iff {ix : Instruction Json Json} {r : Rejection} :
    ix.checked = .error r ↔ ix.givenKeys = .error r := by
  have haccounts : ix.accounts.mapM AccountMeta.checked = .error r ↔
      (ix.accounts.map (·.pubkey)).mapM Pubkey.ofJson = .error r := by
    rw [List.mapM_map]
    exact mapM_error_congr fun m e => AccountMeta.checked_eq_error_iff
  have hprogram : (∃ s, addressText ix.programId = .ok s) ↔ ∃ k, Pubkey.ofJson ix.programId = .ok k := by
    simp only [isOk_iff_forall_ne_error, ne_eq, addressText_eq_error_iff]
  simp only [checked, givenKeys, givenAddresses, List.mapM_cons, bind_eq_error_iff, pure, Except.pure,
    addressText_eq_error_iff, haccounts, reduceCtorEq, and_false, exists_false, or_false,
    exists_and_right, hprogram]

theorem isAddressed_iff {ix : Instruction Json Json} :
    ix.IsAddressed ↔ ∃ good, ix.checked = .ok good := by
  rw [isOk_iff_forall_ne_error]
  simp only [ne_eq, checked_eq_error_iff]
  exact mapM_isOk_iff.symm.trans isOk_iff_forall_ne_error

end Instruction

/-! ## Sessions without a builder -/

namespace SessionStep

/-- The instructions that are taken up after a step. -/
def takeUp (taken : List (Instruction Json Json)) : SessionStep → List (Instruction Json Json)
  | add ix => if ix.IsAddressed then taken ++ [ix] else taken
  | build _ _ => taken
  | reset => []

/-- The instructions that are taken up after steps in order. -/
def takenUp (steps : List SessionStep) : List (Instruction Json Json) := steps.foldl takeUp []

/-- The answer to a step after which instructions were taken up. -/
def answer (taken : List (Instruction Json Json)) : SessionStep → Attempt SessionAnswer
  | add ix => (liftM ix.givenKeys : Attempt (List Pubkey)).map fun _ => .held (taken.length + 1)
  | build signers budget => (buildTransaction taken signers budget).map .built
  | reset => .ok .restarted

theorem answer_add_fails_iff {taken : List (Instruction Json Json)} {ix : Instruction Json Json} :
    (∃ e, (add ix).answer taken = .error e) ↔ ∃ v ∈ ix.givenAddresses, ¬ IsAddress v := by
  rw [answer]
  cases hkeys : ix.givenKeys with
  | error r =>
    refine iff_of_true ⟨r.failure, rfl⟩ ?_
    obtain ⟨before, v, after, heq, -, hv⟩ := mapM_eq_error_iff.1 hkeys
    refine ⟨v, by simp [heq], ?_⟩
    rintro ⟨k, hk⟩
    rw [hv] at hk
    cases hk
  | ok keys =>
    have hgood : ix.IsAddressed := mapM_isOk_iff.1 ⟨keys, hkeys⟩
    refine iff_of_false ?_ ?_
    · rintro ⟨e, he⟩
      cases he
    · rintro ⟨v, hv, hbad⟩
      exact hbad (hgood v hv)

end SessionStep

namespace Builder

/-- A builder holds instructions: they were added to it and nothing else was. -/
def Holds (b : Builder) (taken : List (Instruction Json Json)) : Prop := taken.foldlM add empty = .ok b

variable {b : Builder} {taken : List (Instruction Json Json)}

theorem Holds.length_eq (h : b.Holds taken) : b.held.length = taken.length := by
  obtain ⟨goods, hgoods, rfl⟩ := foldlM_add_eq_ok_iff.1 h
  exact (forall₂_of_mapM_ok hgoods).length_eq.symm

/-- Building what is held is building what was added, at once. -/
theorem Holds.buildTransaction_eq (h : b.Holds taken) (signers budget : Json) :
    buildTransaction taken signers budget = b.build signers budget := by
  have hadd : taken.foldlM add empty = .ok b := h
  rw [buildTransaction, hadd]
  rfl

theorem Holds.add {c : Builder} {ix : Instruction Json Json} (h : b.Holds taken)
    (hadd : b.add ix = .ok c) : c.Holds (taken ++ [ix]) := by
  have hall : taken.foldlM Builder.add empty = .ok b := h
  rw [Holds, List.foldlM_append, hall]
  exact bind_eq_ok_iff.2 ⟨b, rfl, bind_eq_ok_iff.2 ⟨c, hadd, rfl⟩⟩

/-! ## One step -/

theorem settleStep_add_of_error {ix : Instruction Json Json} {r : Rejection}
    (h : ix.checked = .error r) : settleStep step b (.add ix) = (.error r.failure, b) := by
  refine settleStep_of_error ?_
  rw [step, Builder.add, h]
  rfl

theorem settleStep_add_of_ok {ix : Instruction Json Json} {good : Instruction Text Json}
    (h : ix.checked = .ok good) :
    settleStep step b (.add ix) = (.ok (.held (b.held.length + 1)), ⟨b.held ++ [good]⟩) := by
  refine settleStep_of_ok ?_
  rw [step, add_eq_ok_iff.2 ⟨good, h, rfl⟩, ← List.length_singleton, ← List.length_append]
  rfl

/-- **Building leaves no trace**, whether it fails or not. -/
theorem settleStep_build (b : Builder) (signers budget : Json) :
    settleStep step b (.build signers budget) = ((b.build signers budget).map .built, b) := by
  cases htx : b.build signers budget with
  | error e =>
    refine settleStep_of_error ?_
    rw [step, htx]
    rfl
  | ok tx =>
    refine settleStep_of_ok ?_
    rw [step, htx]
    rfl

/-- **One step**: it is answered as the instructions say that were taken up before it, and leaves the
builder with those that are taken up after it. -/
theorem settleStep_of_holds (h : b.Holds taken) (s : SessionStep) :
    (settleStep step b s).1 = s.answer taken ∧ (settleStep step b s).2.Holds (s.takeUp taken) := by
  cases s with
  | add ix =>
    cases hix : ix.checked with
    | error r =>
      have hkeys : ix.givenKeys = .error r := Instruction.checked_eq_error_iff.1 hix
      have hbad : ¬ ix.IsAddressed := by
        rw [Instruction.isAddressed_iff, hix]
        rintro ⟨good, hgood⟩
        cases hgood
      rw [settleStep_add_of_error hix, SessionStep.answer, hkeys, SessionStep.takeUp, if_neg hbad]
      exact ⟨rfl, h⟩
    | ok good =>
      have hgood : ix.IsAddressed := Instruction.isAddressed_iff.2 ⟨good, hix⟩
      obtain ⟨keys, hkeys⟩ : ∃ keys, ix.givenKeys = .ok keys := mapM_isOk_iff.2 hgood
      rw [settleStep_add_of_ok hix, h.length_eq, SessionStep.answer, hkeys, SessionStep.takeUp,
        if_pos hgood]
      exact ⟨rfl, h.add (add_eq_ok_iff.2 ⟨good, hix, rfl⟩)⟩
  | build signers budget =>
    rw [settleStep_build, SessionStep.answer, h.buildTransaction_eq]
    exact ⟨rfl, h⟩
  | reset =>
    rw [settleStep_of_ok (step_reset b)]
    exact ⟨rfl, rfl⟩

/-- **A step that fails leaves no trace.** -/
theorem settleStep_eq_self_of_error {s : SessionStep} {e : Failure}
    (h : (settleStep step b s).1 = .error e) : (settleStep step b s).2 = b := by
  cases hs : step b s with
  | error d => rw [settleStep_of_error hs]
  | ok result =>
    rw [settleStep_of_ok hs] at h
    cases h

/-! ## Whole sessions -/

/-- **A whole session** leaves the builder with what its steps took up. -/
theorem holds_runSteps (h : b.Holds taken) (steps : List SessionStep) :
    (runSteps step b steps).2.Holds (steps.foldl SessionStep.takeUp taken) := by
  induction steps generalizing b taken with
  | nil => exact h
  | cons s steps ih => exact ih (settleStep_of_holds h s).2

theorem holds_takenUp (steps : List SessionStep) :
    (runSteps step empty steps).2.Holds (SessionStep.takenUp steps) := by
  have hempty : empty.Holds [] := rfl
  exact holds_runSteps hempty steps

/-! ## Failures of building -/

/-- A failure that is no rejection of an address, nor of anything else but what a transaction is to be
built with. -/
def SparesAddresses (e : Failure) : Prop :=
  ∀ r, e = .rejected r → ∃ fault, r = ⟨.transaction fault, ""⟩

theorem sparesAddresses_failure (fault : TransactionFault) :
    SparesAddresses (Rejection.failure ⟨.transaction fault, ""⟩) := by
  intro r hr
  unfold Rejection.failure at hr
  split at hr
  · cases hr
    exact ⟨fault, rfl⟩
  · cases hr

/-- **Building never fails on an address.** -/
theorem build_sparesAddresses (b : Builder) (signers budget : Json) :
    FailsOnly SparesAddresses (b.build signers budget) := by
  intro e he
  cases refuses_of_build he with
  | budget => exact sparesAddresses_failure _
  | signers =>
    intro r hr
    cases hr
    exact ⟨_, rfl⟩
  | atomic =>
    intro r hr
    cases hr
  | flags =>
    intro r hr
    cases hr

/-! ## Every step of every session -/

/-- How a step is settled that comes after instructions were taken up, between the builder before it and
the builder after it. -/
structure SettlesStep (taken : List (Instruction Json Json)) (s : SessionStep) (b c : Builder)
    (answer : Attempt SessionAnswer) : Prop where
  /-- What was taken up decides the answer, so every build is a build at once. -/
  answered : answer = s.answer taken
  /-- The builder holds what was taken up, and nothing else. -/
  held : b.Holds taken
  taken_up : c.Holds (s.takeUp taken)
  /-- Whatever is held is addressed by keys, so no build fails on an address, nor does building at once. -/
  keyed : b.HoldsKeys
  spared : ∀ signers budget, FailsOnly SparesAddresses (b.build signers budget) ∧
    FailsOnly SparesAddresses (buildTransaction taken signers budget)
  /-- Adding fails on a bad address, wherever it stands, and on nothing else. -/
  add_fails_iff : ∀ ix, s = .add ix →
    ((∃ e, answer = .error e) ↔ ∃ v ∈ ix.givenAddresses, ¬ IsAddress v)
  /-- A step that fails leaves the builder as it was. -/
  kept_of_error : ∀ e, answer = .error e → c = b
  /-- So does building, whether it fails or not. -/
  kept_of_build : ∀ signers budget, s = .build signers budget → c = b

/-- **Sessions are atomic**: every step of every session, whatever failed before it, is settled by what was
taken up before it. -/
theorem session_atomic (before : List SessionStep) (s : SessionStep) (after : List SessionStep) :
    ∃ answer, (session (before ++ s :: after))[before.length]? = some answer ∧
      SettlesStep (SessionStep.takenUp before) s (runSteps step empty before).2
        (runSteps step empty (before ++ [s])).2 answer := by
  let b := (runSteps step empty before).2
  have hheld : b.Holds (SessionStep.takenUp before) := holds_takenUp before
  obtain ⟨hanswer, hafter⟩ := settleStep_of_holds hheld s
  have hc : (runSteps step empty (before ++ [s])).2 = (settleStep step b s).2 := by
    rw [runSteps_append]
    rfl
  refine ⟨(settleStep step b s).1, ?_, ?_⟩
  · rw [session, runSteps_append, List.getElem?_append_right (by rw [runSteps_length]), runSteps_length,
      Nat.sub_self]
    rfl
  · rw [hc]
    exact
      { answered := hanswer
        held := hheld
        taken_up := hafter
        keyed := session_holdsKeys before
        spared := fun signers budget => by
          rw [hheld.buildTransaction_eq]
          exact and_self_iff.2 (build_sparesAddresses b signers budget)
        add_fails_iff := by
          rintro ix rfl
          rw [hanswer]
          exact SessionStep.answer_add_fails_iff
        kept_of_error := fun e => settleStep_eq_self_of_error
        kept_of_build := by
          rintro signers budget rfl
          rw [settleStep_build] }

end Builder

end CrossVenue
