/-!
# Sequences of steps

Steps are taken in order on a state.  Each is answered; a step that fails is answered by its failure
and leaves the state as it was.

* `runSteps_length` : every step has its answer;
* `runSteps_append` : a sequence may be cut anywhere;
* `runSteps_induction` : what every successful step keeps holds at the end.
-/

set_option autoImplicit false

namespace CrossVenue

variable {σ α β ε : Type}

/-- The answer of a step and the state after it. -/
def settleStep (step : σ → α → Except ε (β × σ)) (s : σ) (a : α) : Except ε β × σ :=
  match step s a with
  | .ok (answer, t) => (.ok answer, t)
  | .error e => (.error e, s)

/-- The answers of steps taken in order, and the state after the last. -/
def runSteps (step : σ → α → Except ε (β × σ)) : σ → List α → List (Except ε β) × σ
  | s, [] => ([], s)
  | s, a :: rest =>
    let here := settleStep step s a
    let later := runSteps step here.2 rest
    (here.1 :: later.1, later.2)

theorem settleStep_of_error {step : σ → α → Except ε (β × σ)} {s : σ} {a : α} {e : ε}
    (h : step s a = .error e) : settleStep step s a = (.error e, s) := by
  simp [settleStep, h]

theorem settleStep_of_ok {step : σ → α → Except ε (β × σ)} {s t : σ} {a : α} {b : β}
    (h : step s a = .ok (b, t)) : settleStep step s a = (.ok b, t) := by
  simp [settleStep, h]

theorem runSteps_length (step : σ → α → Except ε (β × σ)) (s : σ) (as : List α) :
    (runSteps step s as).1.length = as.length := by
  induction as generalizing s with
  | nil => rfl
  | cons a rest ih => simp [runSteps, ih]

theorem runSteps_append (step : σ → α → Except ε (β × σ)) (s : σ) (as bs : List α) :
    runSteps step s (as ++ bs) =
      ((runSteps step s as).1 ++ (runSteps step (runSteps step s as).2 bs).1,
        (runSteps step (runSteps step s as).2 bs).2) := by
  induction as generalizing s with
  | nil => rfl
  | cons a rest ih => simp [runSteps, ih]

theorem runSteps_induction {step : σ → α → Except ε (β × σ)} {P : σ → Prop}
    (keeps : ∀ s a b t, P s → step s a = .ok (b, t) → P t) {s : σ} (h : P s) (as : List α) :
    P (runSteps step s as).2 := by
  induction as generalizing s with
  | nil => exact h
  | cons a rest ih =>
    apply ih
    unfold settleStep
    split
    · rename_i answer t hs
      exact keeps s a answer t h hs
    · exact h

end CrossVenue
