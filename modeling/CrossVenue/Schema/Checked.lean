import CrossVenue.Schema.Issue

/-!
# Results of checking untrusted values

A check accepts a value or lists all its issues.  Checks of independent parts run side by side, and
their issues are listed in the order of the parts.

* `and_eq_accepted_iff` : both parts have to be accepted;
* `collect_eq_accepted_iff` : so do all items of a list.
-/

set_option autoImplicit false

namespace CrossVenue

/-- An accepted value, or what is wrong with it. -/
inductive Checked (α : Type)
  | accepted (value : α)
  | refused (issues : List Issue)
deriving Repr

namespace Checked

variable {α β : Type}

/-- Refuses for one broken rule of the value itself. -/
def refuse (rule : Rule) : Checked α := refused [⟨rule, []⟩]

/-- Changes the accepted value. -/
def map (f : α → β) : Checked α → Checked β
  | accepted a => accepted (f a)
  | refused is => refused is

/-- Hands a part to a function that waits for it; issues of both are listed. -/
def and : Checked (α → β) → Checked α → Checked β
  | accepted f, accepted a => accepted (f a)
  | accepted _, refused is => refused is
  | refused is, accepted _ => refused is
  | refused is, refused js => refused (is ++ js)

/-- Runs a check that needs the accepted value. -/
def andThen (x : Checked α) (f : α → Checked β) : Checked β :=
  match x with
  | accepted a => f a
  | refused is => refused is

/-- The issues seen from the value that holds the part at `place`. -/
def under (place : Place) : Checked α → Checked α
  | accepted a => accepted a
  | refused is => refused (is.map (Issue.under place))

/-- All items, or the issues of all items in order. -/
def collect : List (Checked α) → Checked (List α)
  | [] => accepted []
  | x :: xs => (x.map List.cons).and (collect xs)

/-- The accepted value, if there is one. -/
def toOption : Checked α → Option α
  | accepted a => some a
  | refused _ => none

theorem and_eq_accepted_iff {f : Checked (α → β)} {x : Checked α} {b : β} :
    f.and x = accepted b ↔ ∃ g a, f = accepted g ∧ x = accepted a ∧ b = g a := by
  cases f <;> cases x <;> simp [and, eq_comm]

theorem map_eq_accepted_iff {f : α → β} {x : Checked α} {b : β} :
    x.map f = accepted b ↔ ∃ a, x = accepted a ∧ b = f a := by
  cases x <;> simp [map, eq_comm]

theorem andThen_eq_accepted_iff {x : Checked α} {f : α → Checked β} {b : β} :
    x.andThen f = accepted b ↔ ∃ a, x = accepted a ∧ f a = accepted b := by
  cases x <;> simp [andThen]

theorem under_eq_accepted_iff {place : Place} {x : Checked α} {a : α} :
    x.under place = accepted a ↔ x = accepted a := by
  cases x <;> simp [under]

theorem collect_eq_accepted_iff {xs : List (Checked α)} {as : List α} :
    collect xs = accepted as ↔ xs = as.map accepted := by
  induction xs generalizing as with
  | nil => cases as <;> simp [collect]
  | cons x xs ih =>
    simp only [collect, and_eq_accepted_iff, map_eq_accepted_iff, ih]
    constructor
    · rintro ⟨g, bs, ⟨a, rfl, rfl⟩, rfl, rfl⟩
      rfl
    · intro h
      cases as with
      | nil => cases h
      | cons a as =>
        simp only [List.map_cons, List.cons.injEq] at h
        exact ⟨List.cons a, as, ⟨a, h.1, rfl⟩, h.2, rfl⟩

end Checked

end CrossVenue
