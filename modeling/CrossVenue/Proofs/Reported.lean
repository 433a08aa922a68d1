import CrossVenue.Proofs.Computation
import CrossVenue.Proofs.Text.Plain

/-!
# Failures that can be reported

A rejection can be reported if its message can be written and is plain.  Whatever else a computation may
end in but its value is no answer, so what is shown of a computation is that it fails in one way only.

* `FailsOnly` : a computation that fails, if at all, in a given way, with a lemma for each way to put
  computations together;
* `Judged`, `Answered` : it ends in a value or in a rejection that can be reported;
* `Cause.Sayable` : what has to be shown of the cause of a rejection.
-/

set_option autoImplicit false

namespace CrossVenue

variable {ε δ α β : Type}

/-! ## Computations that fail in one way only -/

/-- Is every failure of a computation of one kind? -/
def FailsOnly (E : ε → Prop) (x : Except ε α) : Prop := ∀ e, x = .error e → E e

namespace FailsOnly

variable {E : ε → Prop} {x : Except ε α}

theorem of_ok {a : α} (h : x = .ok a) : FailsOnly E x := by
  intro e he
  rw [h] at he
  cases he

theorem of_error {e : ε} (h : E e) : FailsOnly E (.error e : Except ε α) := by
  intro e' he
  cases he
  exact h

theorem mono {D : ε → Prop} (hx : FailsOnly E x) (h : ∀ e, E e → D e) : FailsOnly D x :=
  fun e he => h e (hx e he)

/-- The second step may use what the first one gave. -/
theorem bind {f : α → Except ε β} (hx : FailsOnly E x)
    (hf : ∀ a, x = .ok a → FailsOnly E (f a)) : FailsOnly E (x >>= f) := by
  cases x with
  | error e => exact of_error (hx e rfl)
  | ok a => exact hf a rfl

theorem map (f : α → β) (hx : FailsOnly E x) : FailsOnly E (x.map f) := by
  cases x with
  | error e => exact of_error (hx e rfl)
  | ok a => exact of_ok rfl

theorem mapError {f : ε → δ} {D : δ → Prop} (hx : FailsOnly E x) (hf : ∀ e, E e → D (f e)) :
    FailsOnly D (x.mapError f) := by
  cases x with
  | error e => exact of_error (hf e (hx e rfl))
  | ok a => exact of_ok rfl

theorem mapM {f : α → Except ε β} {xs : List α} (h : ∀ a ∈ xs, FailsOnly E (f a)) :
    FailsOnly E (xs.mapM f) := by
  induction xs with
  | nil => exact of_ok rfl
  | cons a as ih =>
    rw [List.mapM_cons]
    exact (h a (by simp)).bind fun _ _ =>
      (ih fun b hb => h b (by simp [hb])).bind fun _ _ => of_ok rfl

end FailsOnly

/-! ## Rejections that can be reported -/

/-- Can a rejection be reported? -/
structure Rejection.Reportable (r : Rejection) : Prop where
  isWritable : r.isWritable = true
  isPlain : r.isPlain = true

/-- Is a failure a rejection that can be reported? -/
def Failure.Reportable : Failure → Prop
  | .rejected r => r.Reportable
  | _ => False

/-- Does a judgement end in a value or in a rejection that can be reported? -/
def Judged (x : Except Rejection α) : Prop := FailsOnly Rejection.Reportable x

/-- Does an attempt end in a value or in a rejection that can be reported? -/
def Answered (x : Attempt α) : Prop := FailsOnly Failure.Reportable x

/-- Can all that is said about a cause be said, and what is omitted too? -/
def Cause.Sayable (c : Cause) : Prop := c.sentence.Sayable ∧ c.omitted.Sayable

section

variable {c : Cause} {venue : Text}

theorem Cause.Sayable.reportable (h : c.Sayable) (hv : venue.isPlain = true) :
    Rejection.Reportable ⟨c, venue⟩ := by
  have hs : (Rejection.mk c venue).sentence.Sayable := by
    unfold Rejection.sentence
    split
    · exact h.1
    · simp [hv, h.1]
  exact
    { isWritable := by simp [Rejection.isWritable, hs.isWritable, h.2.isWritable]
      isPlain := by simp [Rejection.isPlain, Rejection.message, hs.isPlain_text, h.2.isPlain_text] }

theorem Rejection.Reportable.failure {r : Rejection} (h : r.Reportable) :
    r.failure.Reportable := by
  rw [failure_of_isWritable h.isWritable]
  exact h

theorem judged_reject (h : c.Sayable) : Judged (reject c : Except Rejection α) :=
  .of_error (h.reportable rfl)

theorem judged_rejectAt (hv : venue.isPlain = true) (h : c.Sayable) :
    Judged (rejectAt venue c : Except Rejection α) := .of_error (h.reportable hv)

theorem answered_failWith (h : c.Sayable) : Answered (failWith c : Attempt α) :=
  .of_error (h.reportable rfl).failure

theorem answered_failAt (hv : venue.isPlain = true) (h : c.Sayable) :
    Answered (failAt venue c : Attempt α) := .of_error (h.reportable hv).failure

theorem answered_requireWritable {line : Sentence} (h : line.isWritable = true) :
    Answered (requireWritable line) := .of_ok (requireWritable_eq_ok_iff (u := ()).2 h)

theorem Judged.lift {x : Except Rejection α} (h : Judged x) : Answered (liftM x : Attempt α) :=
  h.mapError fun _ hr => hr.failure

theorem Answered.eq_ok_or_rejected {x : Attempt α} (h : Answered x) :
    (∃ a, x = .ok a) ∨ ∃ r : Rejection, x = .error (.rejected r) ∧ r.Reportable := by
  cases x with
  | ok a => exact .inl ⟨a, rfl⟩
  | error f =>
    have hf := h f rfl
    cases f with
    | rejected r => exact .inr ⟨r, rfl, hf⟩
    | invalid issues => exact hf.elim
    | broken how => exact hf.elim

end

/-! ## Causes, by kind -/

section

open Cause

@[simp]
theorem sayable_pool {f : PoolFault} : (pool f).Sayable ↔ f.sentence.Sayable :=
  and_iff_left Sentence.sayable_nil

@[simp]
theorem sayable_seedLength {f : SeedLengthFault} : (seedLength f).Sayable ↔ f.sentence.Sayable :=
  and_iff_left Sentence.sayable_nil

@[simp]
theorem sayable_seed {f : SeedFault} : (seed f).Sayable ↔ f.sentence.Sayable :=
  and_iff_left Sentence.sayable_nil

@[simp]
theorem sayable_address {f : AddressFault} : (address f).Sayable ↔ f.sentence.Sayable :=
  and_iff_left Sentence.sayable_nil

@[simp]
theorem sayable_venue {f : VenueFault} : (venue f).Sayable ↔ f.sentence.Sayable :=
  and_iff_left Sentence.sayable_nil

@[simp]
theorem sayable_pair {f : PairFault} : (pair f).Sayable ↔ f.sentence.Sayable :=
  and_iff_left Sentence.sayable_nil

end

end CrossVenue
