import CrossVenue.Failure
import Mathlib.Data.List.Forall2

/-!
# Computations that succeed

What a computation in steps has to go through for its result, read backwards from the result, and for its
failure:

* `bind_eq_ok_iff`, `map_eq_ok_iff` : both steps succeed;
* `bind_of_ok`, `lift_bind_of_ok` : a first step that succeeds;
* `lift_eq_ok_iff` : a rejection that becomes a failure is no success;
* `requireWritable_bind` : what follows a line that has to be written;
* `attempt_eq_ok_iff` : a check succeeds when it accepts;
* `mapM_map_of_forall`, `mapM_eq_ok_iff`, `forall₂_of_mapM_ok` : what is done to every item of a list;
* `bind_eq_error_iff`, `lift_eq_error_iff`, `mapM_eq_error_iff` : where a computation fails;
* `mapM_isOk_iff`, `mapM_error_congr` : a list succeeds when every item does, and fails as its items do.
-/

set_option autoImplicit false

namespace CrossVenue

variable {ε δ α β γ : Type}

theorem bind_eq_ok_iff {x : Except ε α} {f : α → Except ε β} {b : β} :
    x >>= f = .ok b ↔ ∃ a, x = .ok a ∧ f a = .ok b := by
  cases x with
  | error e => simp [bind, Except.bind]
  | ok a => simp [bind, Except.bind]

theorem bind_of_ok {x : Except ε α} {a : α} (h : x = .ok a) (f : α → Except ε β) : x >>= f = f a := by
  rw [h]
  rfl

theorem lift_bind_of_ok {x : Except Rejection α} {a : α} (h : x = .ok a) (f : α → Attempt β) :
    (liftM x : Attempt α) >>= f = f a := by
  rw [h]
  rfl

theorem map_eq_ok_iff {x : Except ε α} {f : α → β} {b : β} :
    x.map f = .ok b ↔ ∃ a, x = .ok a ∧ f a = b := by
  cases x with
  | error e => simp [Except.map]
  | ok a => simp [Except.map]

theorem mapError_eq_ok_iff {x : Except ε α} {f : ε → δ} {a : α} :
    x.mapError f = .ok a ↔ x = .ok a := by
  cases x with
  | error e => constructor <;> intro h <;> cases h
  | ok b => constructor <;> intro h <;> cases h <;> rfl

theorem lift_eq_ok_iff {x : Except Rejection α} {a : α} :
    (liftM x : Attempt α) = .ok a ↔ x = .ok a := mapError_eq_ok_iff

theorem requireWritable_bind (line : Sentence) (f : Unit → Attempt α) :
    requireWritable line >>= f = if line.isWritable then f () else breakDown .badText := by
  unfold requireWritable
  split <;> rfl

theorem attempt_eq_ok_iff {x : Checked α} {a : α} : x.attempt = .ok a ↔ x = .accepted a := by
  cases x with
  | accepted b => simp [Checked.attempt]
  | refused is => simp [Checked.attempt]

/-- A list is got back from its image when every item is. -/
theorem mapM_map_of_forall {m : Type → Type} [Monad m] [LawfulMonad m] {f : β → m α} {g : α → β}
    {xs : List α} (h : ∀ x ∈ xs, f (g x) = pure x) : (xs.map g).mapM f = pure xs := by
  induction xs with
  | nil => simp
  | cons x xs ih =>
    have hx := h x (by simp)
    have hxs := ih fun y hy => h y (by simp [hy])
    rw [List.map_cons, List.mapM_cons, hx, hxs]
    simp

/-- A step that gives one result, if it succeeds, succeeds at the list when it does at every item. -/
theorem mapM_eq_ok_iff {f : α → Except ε β} {g : α → β} {P : α → Prop}
    (h : ∀ x y, f x = .ok y ↔ P x ∧ y = g x) {xs : List α} {ys : List β} :
    xs.mapM f = .ok ys ↔ (∀ x ∈ xs, P x) ∧ ys = xs.map g := by
  induction xs generalizing ys with
  | nil => simp [pure, Except.pure, eq_comm]
  | cons x xs ih =>
    simp only [List.mapM_cons, bind_eq_ok_iff, h, ih, pure, Except.pure, Except.ok.injEq,
      List.forall_mem_cons, List.map_cons]
    constructor
    · rintro ⟨_, ⟨hx, rfl⟩, _, ⟨hxs, rfl⟩, rfl⟩
      exact ⟨⟨hx, hxs⟩, rfl⟩
    · rintro ⟨⟨hx, hxs⟩, rfl⟩
      exact ⟨_, ⟨hx, rfl⟩, _, ⟨hxs, rfl⟩, rfl⟩

/-- A list of results comes from a list of computations, one by one. -/
theorem forall₂_of_mapM_ok {f : α → Except ε β} {xs : List α} {ys : List β}
    (h : xs.mapM f = .ok ys) : List.Forall₂ (fun x y => f x = .ok y) xs ys := by
  induction xs generalizing ys with
  | nil =>
    cases h
    exact .nil
  | cons x xs ih =>
    simp only [List.mapM_cons, bind_eq_ok_iff, pure, Except.pure, Except.ok.injEq] at h
    obtain ⟨y, hy, rest, hrest, rfl⟩ := h
    exact .cons hy (ih hrest)

theorem mem_iff_of_mapM_ok {f : α → Except ε β} {xs : List α} {ys : List β} {y : β}
    (h : xs.mapM f = .ok ys) : y ∈ ys ↔ ∃ x ∈ xs, f x = .ok y := by
  have hall := forall₂_of_mapM_ok h
  clear h
  induction hall with
  | nil => simp
  | cons hxz _ ih =>
    simp only [List.mem_cons, exists_eq_or_imp, hxz, Except.ok.injEq]
    exact or_congr eq_comm ih

theorem map_eq_of_mapM_ok {f : α → Except ε β} {g : α → γ} {k : β → γ}
    (hg : ∀ x y, f x = .ok y → k y = g x) {xs : List α} {ys : List β} (h : xs.mapM f = .ok ys) :
    ys.map k = xs.map g := by
  have hall := forall₂_of_mapM_ok h
  clear h
  induction hall with
  | nil => rfl
  | cons hxy _ ih => rw [List.map_cons, List.map_cons, hg _ _ hxy, ih]

/-! ## Computations that fail -/

theorem bind_eq_error_iff {x : Except ε α} {f : α → Except ε β} {e : ε} :
    x >>= f = .error e ↔ x = .error e ∨ ∃ a, x = .ok a ∧ f a = .error e := by
  cases x with
  | error d => simp [bind, Except.bind]
  | ok a => simp [bind, Except.bind]

theorem lift_eq_error_iff {x : Except Rejection α} {failure : Failure} :
    (liftM x : Attempt α) = .error failure ↔ ∃ r, x = .error r ∧ failure = r.failure := by
  cases x with
  | error r =>
    constructor
    · intro h
      exact ⟨r, rfl, (Except.error.inj h).symm⟩
    · rintro ⟨_, h, rfl⟩
      cases h
      rfl
  | ok a => exact iff_of_false (fun h => by cases h) (fun ⟨_, h, _⟩ => by cases h)

theorem map_eq_error_iff {x : Except ε α} {f : α → β} {e : ε} :
    x.map f = .error e ↔ x = .error e := by
  cases x with
  | error d => simp [Except.map]
  | ok a => simp [Except.map]

/-- A step fails at a list as it fails at the first item at which it does. -/
theorem mapM_eq_error_iff {f : α → Except ε β} {xs : List α} {e : ε} :
    xs.mapM f = .error e ↔ ∃ before x after, xs = before ++ x :: after ∧
      (∀ y ∈ before, ∃ b, f y = .ok b) ∧ f x = .error e := by
  induction xs with
  | nil => simp [pure, Except.pure]
  | cons x xs ih =>
    simp only [List.mapM_cons, bind_eq_error_iff, pure, Except.pure, reduceCtorEq, and_false,
      exists_false, or_false, ih]
    constructor
    · rintro (h | ⟨b, hb, before, y, after, rfl, hbefore, h⟩)
      · exact ⟨[], x, xs, rfl, by simp, h⟩
      · exact ⟨x :: before, y, after, rfl, List.forall_mem_cons.2 ⟨⟨b, hb⟩, hbefore⟩, h⟩
    · rintro ⟨before, y, after, heq, hbefore, h⟩
      cases before with
      | nil =>
        cases heq
        exact .inl h
      | cons z before =>
        cases heq
        obtain ⟨⟨b, hb⟩, hbefore⟩ := List.forall_mem_cons.1 hbefore
        exact .inr ⟨b, hb, before, y, after, rfl, hbefore, h⟩

theorem isOk_iff_forall_ne_error {x : Except ε α} : (∃ a, x = .ok a) ↔ ∀ e, x ≠ .error e := by
  cases x <;> simp

/-- A step succeeds at a list when it does at every item. -/
theorem mapM_isOk_iff {f : α → Except ε β} {xs : List α} :
    (∃ ys, xs.mapM f = .ok ys) ↔ ∀ x ∈ xs, ∃ y, f x = .ok y := by
  induction xs with
  | nil => simp [pure, Except.pure]
  | cons x xs ih =>
    simp only [List.mapM_cons, bind_eq_ok_iff, pure, Except.pure, Except.ok.injEq,
      List.forall_mem_cons, ← ih]
    constructor
    · rintro ⟨_, y, hy, ys, hys, rfl⟩
      exact ⟨⟨y, hy⟩, ys, hys⟩
    · rintro ⟨⟨y, hy⟩, ys, hys⟩
      exact ⟨_, y, hy, ys, hys, rfl⟩

/-- Steps that fail alike at every item fail alike at a list. -/
theorem mapM_error_congr {f : α → Except ε β} {g : α → Except ε γ}
    (h : ∀ x e, f x = .error e ↔ g x = .error e) {xs : List α} {e : ε} :
    xs.mapM f = .error e ↔ xs.mapM g = .error e := by
  simp only [mapM_eq_error_iff, isOk_iff_forall_ne_error, ne_eq, h]

end CrossVenue
