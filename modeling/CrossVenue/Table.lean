import CrossVenue.Text.Basic

/-!
# Tables in order

A table is a list of names with values, in the order in which the names were first set.

* `set_lookup` : what a name stands for after one was set;
* `set_names`, `set_of_not_mem` : setting a name that is present keeps its place, any other comes last;
* `mem_of_lookup`, `mem_values_of_lookup` : what a name stands for is an entry;
* `mem_values_set` : setting a name adds no other value.
-/

set_option autoImplicit false

namespace CrossVenue

/-- Names with values, in order. -/
abbrev Table (α : Type) := List (Text × α)

namespace Table

variable {α : Type}

/-- Sets a name: in its place if it is present, at the end otherwise. -/
def set : Table α → Text → α → Table α
  | [], name, v => [(name, v)]
  | (k, w) :: rest, name, v =>
    if k = name then (k, v) :: rest else (k, w) :: set rest name v

/-- The names in order. -/
def names (t : Table α) : List Text := t.map (·.1)

/-- The values in order. -/
def values (t : Table α) : List α := t.map (·.2)

theorem set_lookup (t : Table α) (name : Text) (v : α) (k : Text) :
    (t.set name v).lookup k = if k = name then some v else t.lookup k := by
  induction t with
  | nil => simp only [set, List.lookup_cons, List.lookup_nil]; split <;> simp_all
  | cons p rest ih =>
    obtain ⟨a, w⟩ := p
    simp only [set]
    split
    · subst_vars
      simp only [List.lookup_cons]
      split <;> simp_all
    · simp only [List.lookup_cons, ih]
      split <;> simp_all

theorem set_names {t : Table α} {name : Text} {v : α} (h : name ∈ t.names) :
    (t.set name v).names = t.names := by
  induction t with
  | nil => simp [names] at h
  | cons p rest ih =>
    simp only [set]
    split
    · simp [names]
    · rename_i hk
      simp only [names, List.map_cons, List.mem_cons] at h ih ⊢
      rw [ih (h.resolve_left (Ne.symm hk))]

variable {t : Table α} {name : Text} {v w : α}

theorem set_of_not_mem (h : name ∉ t.names) (v : α) : t.set name v = t ++ [(name, v)] := by
  induction t with
  | nil => rfl
  | cons p rest ih =>
    simp only [names, List.map_cons, List.mem_cons, not_or] at h ih
    rw [set, if_neg (Ne.symm h.1), ih h.2, List.cons_append]

theorem mem_of_lookup (h : t.lookup name = some v) : (name, v) ∈ t := by
  obtain ⟨before, after, rfl, -⟩ := List.lookup_eq_some_iff.1 h
  simp

theorem mem_values_of_lookup (h : t.lookup name = some v) : v ∈ t.values :=
  List.mem_map.2 ⟨_, mem_of_lookup h, rfl⟩

theorem name_of_lookup (h : t.lookup name = some v) : name ∈ t.names :=
  List.mem_map.2 ⟨_, mem_of_lookup h, rfl⟩

theorem mem_values_set (h : w ∈ (t.set name v).values) : w = v ∨ w ∈ t.values := by
  induction t with
  | nil => exact .inl (List.mem_singleton.1 h)
  | cons p rest ih =>
    obtain ⟨k, u⟩ := p
    simp only [values, set] at h ih ⊢
    split at h
    · rw [List.map_cons, List.mem_cons] at h ⊢
      exact h.imp_right .inr
    · rw [List.map_cons, List.mem_cons] at h ⊢
      rcases h with h | h
      · exact .inr (.inl h)
      · exact (ih h).imp_right .inr

end Table

end CrossVenue
