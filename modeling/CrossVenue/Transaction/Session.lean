import CrossVenue.Steps
import CrossVenue.Transaction.Builder

/-!
# Building sessions

A session adds instructions to one builder, builds as often as it likes, and starts over.

* `Builder.step_build_state` : building changes nothing;
* `Builder.step_reset` : starting over always succeeds.
-/

set_option autoImplicit false

namespace CrossVenue

/-- A step of a session. -/
inductive SessionStep
  | add (ix : Instruction Json Json)
  | build (signers budget : Json)
  | reset

/-- The answer to a step of a session. -/
inductive SessionAnswer
  /-- So many instructions are held now. -/
  | held (count : Nat)
  | built (tx : Transaction)
  | restarted
deriving DecidableEq, Repr

namespace Builder

/-- The answer to a step and the builder after it. -/
def step (b : Builder) : SessionStep → Attempt (SessionAnswer × Builder)
  | .add ix => do
    let after ← (b.add ix : Except Rejection Builder)
    .ok (.held after.held.length, after)
  | .build signers budget => do
    let tx ← b.build signers budget
    .ok (.built tx, b)
  | .reset => .ok (.restarted, empty)

/-- The answers to the steps of a session that starts with nothing held. -/
def session (steps : List SessionStep) : List (Attempt SessionAnswer) :=
  (runSteps step empty steps).1

theorem step_build_state {b c : Builder} {signers budget : Json} {answer : SessionAnswer}
    (h : b.step (.build signers budget) = .ok (answer, c)) : c = b := by
  cases hb : b.build signers budget with
  | error e => simp [step, hb, bind, Except.bind] at h
  | ok tx =>
    simp only [step, hb, bind, Except.bind, Except.ok.injEq, Prod.mk.injEq] at h
    exact h.2.symm

theorem step_reset (b : Builder) : b.step .reset = .ok (.restarted, empty) := rfl

end Builder

end CrossVenue
