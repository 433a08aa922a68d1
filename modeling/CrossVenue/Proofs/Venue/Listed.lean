import CrossVenue.Proofs.Venue.Composed
import CrossVenue.Proofs.Venue.Named

/-!
# The list of composers

A registration holds a key until a later one is registered under it.  The list of composers has the
registrations that hold a key, each once.  A key keeps its place when it changes hands, so they stand in the
order in which the keys were first used that they hold now, and not in that of their registrations.  Keys
are looked up only without blanks at their ends: what holds other keys alone is listed but not reached.

* `Dispatcher.holder?`, `Dispatcher.holders` : who holds a key, and every use of a key with its holder;
* `Dispatcher.lookup_registerAll`, `Dispatcher.names_registerAll` : the entries after any registrations;
* `Dispatcher.listed_registerAll` : the list is that of the holders, each at its first occurrence;
* `Dispatcher.composers_concat_of_new` : a registration under new keys comes last;
* `composers_listed` : the list after any registrations.
-/

set_option autoImplicit false

namespace CrossVenue

/-! ## Tables -/

namespace Table

variable {α : Type} {t : Table α} {name : Text}

theorem names_set (t : Table α) (name : Text) (v : α) : (t.set name v).names = insertNew t.names name := by
  unfold insertNew
  split
  · rename_i hmem
    exact set_names hmem
  · rename_i hmem
    rw [set_of_not_mem hmem, names, names, List.map_append]
    rfl

/-- The values are what the names stand for, if no name occurs twice. -/
theorem values_eq_filterMap (h : t.names.Nodup) : t.values = t.names.filterMap fun name => t.lookup name := by
  induction t with
  | nil => rfl
  | cons p rest ih =>
    obtain ⟨k, v⟩ := p
    rw [names, List.map_cons, List.nodup_cons] at h
    have hrest : ∀ name ∈ rest.map (·.1), List.lookup name ((k, v) :: rest) = List.lookup name rest := by
      intro name hname
      have hne : name ≠ k := by
        rintro rfl
        exact h.1 hname
      rw [List.lookup_cons, beq_false_of_ne hne]
    rw [values, names, List.map_cons, List.map_cons, List.filterMap_cons, List.lookup_cons_self,
      List.filterMap_congr hrest]
    exact congrArg _ (ih h.2)

end Table

namespace Dispatcher

open Text

/-! ## Keys and their holders -/

/-- The keys of a composer. -/
def keysOf (c : Composer) : List Text := [nameKey c, qualifiedKey c]

/-- The keys of composers in the order in which these are registered. -/
def keyUses (cs : List Composer) : List Text := cs.flatMap keysOf

/-- The registrations of composers in order. -/
def registrations (cs : List Composer) : List Registered := cs.mapIdx Registered.mk

/-- The last registration under a key. -/
def holder? (cs : List Composer) (key : Text) : Option Registered :=
  (registrations cs).reverse.find? fun e => IsKeyOf key e.composer

/-- The holders of the keys, one for every use of a key. -/
def holders (cs : List Composer) : List Registered := (keyUses cs).filterMap (holder? cs)

/-- When the first of the keys was used that a registration holds. -/
def firstUse (cs : List Composer) (e : Registered) : Nat :=
  (holders cs).findIdx fun f => f.serial == e.serial

/-- The registrations that are listed. -/
def listed (d : Dispatcher) : List Registered := distinct d.entries.values

/-- The registration that a name stands for. -/
def registered? (d : Dispatcher) (name : Text) : Option Registered := d.entries.lookup (lookupKey name)

variable {cs : List Composer} {c : Composer} {key : Text} {e f : Registered}

theorem composers_eq (d : Dispatcher) : d.composers = d.listed.map Registered.composer := rfl

theorem composer?_eq (d : Dispatcher) (name : Text) :
    d.composer? name = (d.registered? name).map Registered.composer := rfl

theorem mem_keysOf_iff : key ∈ keysOf c ↔ IsKeyOf key c := by simp [keysOf, IsKeyOf]

theorem registrations_concat (cs : List Composer) (c : Composer) :
    registrations (cs ++ [c]) = registrations cs ++ [⟨cs.length, c⟩] := List.mapIdx_concat

theorem mem_registrations_iff : e ∈ registrations cs ↔ cs[e.serial]? = some e.composer := by
  simp only [registrations, List.mem_mapIdx]
  constructor
  · rintro ⟨i, hi, rfl⟩
    exact List.getElem?_eq_getElem hi
  · intro h
    obtain ⟨hi, heq⟩ := List.getElem?_eq_some_iff.1 h
    exact ⟨e.serial, hi, by rw [heq]⟩

theorem holder?_concat (cs : List Composer) (c : Composer) (key : Text) :
    holder? (cs ++ [c]) key = if IsKeyOf key c then some ⟨cs.length, c⟩ else holder? cs key := by
  rw [holder?, registrations_concat, List.reverse_concat, List.find?_cons, holder?]
  by_cases h : IsKeyOf key c <;> simp [h]

/-- What holds a key was registered under it. -/
theorem of_holder? (h : holder? cs key = some e) : e ∈ registrations cs ∧ IsKeyOf key e.composer := by
  unfold holder? at h
  exact ⟨List.mem_reverse.1 (List.mem_of_find?_eq_some h),
    of_decide_eq_true (List.find?_some (p := fun f : Registered => decide (IsKeyOf key f.composer)) h)⟩

/-- No later registration is under the key. -/
theorem not_isKeyOf_of_holder? (h : holder? cs key = some e) (hf : f ∈ registrations cs)
    (hlt : e.serial < f.serial) : ¬ IsKeyOf key f.composer := by
  induction cs using List.reverseRecOn with
  | nil => cases hf
  | append_singleton cs c ih =>
    rw [holder?_concat] at h
    rw [registrations_concat, List.mem_append, List.mem_singleton] at hf
    split at h
    · cases h
      rcases hf with hf | rfl
      · have hlength := (List.getElem?_eq_some_iff.1 (mem_registrations_iff.1 hf)).1
        simp only at hlt
        omega
      · exact absurd hlt (Nat.lt_irrefl _)
    · rename_i hkey
      rcases hf with hf | rfl
      · exact ih h hf
      · exact hkey

/-- Every key that was used is held. -/
theorem isSome_holder?_iff : (holder? cs key).isSome = true ↔ key ∈ keyUses cs := by
  induction cs using List.reverseRecOn with
  | nil => simp [holder?, registrations, keyUses]
  | append_singleton cs c ih =>
    rw [holder?_concat]
    simp only [keyUses, List.flatMap_append, List.flatMap_singleton, List.mem_append, mem_keysOf_iff] at ih ⊢
    split <;> simp [*]

/-! ## The entries -/

theorem count_registerAll (cs : List Composer) : (empty.registerAll cs).count = cs.length := by
  induction cs using List.reverseRecOn with
  | nil => rfl
  | append_singleton cs c ih =>
    rw [registerAll_concat, register, ih, List.length_append, List.length_singleton]

/-- **Every key stands for its holder.** -/
theorem lookup_registerAll (cs : List Composer) (key : Text) :
    (empty.registerAll cs).entries.lookup key = holder? cs key := by
  induction cs using List.reverseRecOn with
  | nil => rfl
  | append_singleton cs c ih =>
    rw [registerAll_concat, register_lookup, holder?_concat, ih, count_registerAll]
    rfl

/-- **The keys stand in the order in which they were first used.** -/
theorem names_registerAll (cs : List Composer) :
    (empty.registerAll cs).entries.names = (keyUses cs).foldl insertNew [] := by
  induction cs using List.reverseRecOn with
  | nil => rfl
  | append_singleton cs c ih =>
    rw [registerAll_concat, register, keyUses, List.flatMap_append, List.foldl_append, ← keyUses, ← ih]
    simp only [Table.names_set, List.flatMap_singleton, keysOf, List.foldl_cons, List.foldl_nil]

/-! ## Each at its first occurrence -/

theorem distinct_concat (es : List Registered) (e : Registered) :
    distinct (es ++ [e]) =
      if (distinct es).any (·.serial == e.serial) then distinct es else distinct es ++ [e] :=
  List.foldl_concat ..

theorem any_distinct (es : List Registered) (n : Nat) :
    (distinct es).any (·.serial == n) = es.any (·.serial == n) := by
  induction es using List.reverseRecOn with
  | nil => rfl
  | append_singleton es e ih =>
    rw [distinct_concat, List.any_append, ← ih]
    split
    · rename_i hany
      by_cases hn : e.serial = n
      · subst hn
        rw [hany, Bool.true_or]
      · simp [hn]
    · rw [List.any_append]

theorem distinct_concat_of_mem {es : List Registered} (h : e ∈ es) : distinct (es ++ [e]) = distinct es := by
  rw [distinct_concat, if_pos]
  rw [any_distinct, List.any_eq_true]
  exact ⟨e, h, beq_self_eq_true _⟩

theorem distinct_concat_of_new {es : List Registered} (h : ∀ f ∈ es, f.serial ≠ e.serial) :
    distinct (es ++ [e]) = distinct es ++ [e] := by
  rw [distinct_concat, if_neg]
  rw [any_distinct, List.any_eq_true]
  rintro ⟨f, hf, heq⟩
  exact h f hf (eq_of_beq heq)

/-- A number that occurs is that of one that is kept. -/
theorem exists_mem_distinct {es : List Registered} (h : e ∈ es) : ∃ f ∈ distinct es, f.serial = e.serial := by
  have hany : (distinct es).any (·.serial == e.serial) = true := by
    rw [any_distinct, List.any_eq_true]
    exact ⟨e, h, beq_self_eq_true _⟩
  obtain ⟨f, hf, heq⟩ := List.any_eq_true.1 hany
  exact ⟨f, hf, eq_of_beq heq⟩

/-- **What is kept stands in the order of first occurrences.** -/
theorem pairwise_distinct (es : List Registered) :
    (distinct es).Pairwise fun e f =>
      (es.findIdx fun g => g.serial == e.serial) < es.findIdx fun g => g.serial == f.serial := by
  induction es using List.reverseRecOn with
  | nil => exact .nil
  | append_singleton es x ih =>
    have hin : ∀ e ∈ distinct es, (es.findIdx fun g => g.serial == e.serial) < es.length := fun e he =>
      List.findIdx_lt_length_of_exists ⟨e, mem_of_mem_distinct he, beq_self_eq_true _⟩
    have hold : ∀ e ∈ distinct es, ((es ++ [x]).findIdx fun g => g.serial == e.serial) =
        es.findIdx fun g => g.serial == e.serial := by
      intro e he
      rw [List.findIdx_append, if_pos (hin e he)]
    have hih : (distinct es).Pairwise fun e f =>
        ((es ++ [x]).findIdx fun g => g.serial == e.serial) <
          (es ++ [x]).findIdx fun g => g.serial == f.serial := by
      refine ih.imp_of_mem fun he hf hlt => ?_
      rwa [hold _ he, hold _ hf]
    rw [distinct_concat]
    split
    · exact hih
    · rename_i hnew
      rw [any_distinct, List.any_eq_true] at hnew
      refine List.pairwise_append.2 ⟨hih, List.pairwise_singleton _ _, fun e he f hf => ?_⟩
      obtain rfl := List.mem_singleton.1 hf
      have hlast : (es.findIdx fun g => g.serial == f.serial) = es.length :=
        List.findIdx_eq_length.2 fun g hg => Bool.eq_false_iff.2 fun heq => hnew ⟨g, hg, heq⟩
      rw [hold e he, List.findIdx_append, hlast, if_neg (Nat.lt_irrefl _)]
      exact Nat.lt_add_left _ (hin e he)

/-- Keys that occur again add nothing. -/
theorem distinct_filterMap_insertNew (o : Text → Option Registered) (keys : List Text) :
    distinct ((keys.foldl insertNew []).filterMap o) = distinct (keys.filterMap o) := by
  induction keys using List.reverseRecOn with
  | nil => rfl
  | append_singleton keys key ih =>
    rw [List.foldl_concat, List.filterMap_append]
    by_cases hmem : key ∈ keys.foldl insertNew []
    · have hkeys : key ∈ keys := by simpa using mem_foldl_insertNew_iff.1 hmem
      rw [insertNew, if_pos hmem, ih]
      cases ho : o key with
      | none => simp [ho]
      | some e =>
        have he : e ∈ keys.filterMap o := List.mem_filterMap.2 ⟨key, hkeys, ho⟩
        simp only [List.filterMap_cons, ho, List.filterMap_nil, distinct_concat_of_mem he]
    · rw [insertNew, if_neg hmem, List.filterMap_append]
      cases ho : o key with
      | none => simpa [ho] using ih
      | some e => simp only [List.filterMap_cons, ho, List.filterMap_nil, distinct_concat, ih]

/-! ## The list -/

/-- **The list is that of the holders**, each at its first occurrence. -/
theorem listed_registerAll (cs : List Composer) : (empty.registerAll cs).listed = distinct (holders cs) := by
  have hnodup : (empty.registerAll cs).entries.names.Nodup := by
    rw [names_registerAll]
    exact foldl_insertNew_nodup List.nodup_nil
  rw [listed, Table.values_eq_filterMap hnodup, List.filterMap_congr fun key _ => lookup_registerAll cs key,
    names_registerAll, distinct_filterMap_insertNew, holders]

theorem mem_holders_iff : e ∈ holders cs ↔ ∃ key, holder? cs key = some e := by
  rw [holders, List.mem_filterMap]
  constructor
  · rintro ⟨key, -, h⟩
    exact ⟨key, h⟩
  · rintro ⟨key, h⟩
    exact ⟨key, isSome_holder?_iff.1 (Option.isSome_of_eq_some h), h⟩

/-- Registrations are told apart by their numbers. -/
theorem eq_of_serial_eq (he : e ∈ registrations cs) (hf : f ∈ registrations cs) (h : e.serial = f.serial) :
    e = f := by
  have hcomposer : e.composer = f.composer := by
    rw [← Option.some_inj, ← mem_registrations_iff.1 he, ← mem_registrations_iff.1 hf, h]
  cases e
  cases f
  simp only at h hcomposer
  rw [h, hcomposer]

theorem mem_registrations_of_mem_holders (h : e ∈ holders cs) : e ∈ registrations cs := by
  obtain ⟨key, hkey⟩ := mem_holders_iff.1 h
  exact (of_holder? hkey).1

theorem mem_listed_iff : e ∈ (empty.registerAll cs).listed ↔ ∃ key, holder? cs key = some e := by
  rw [listed_registerAll, ← mem_holders_iff]
  refine ⟨mem_of_mem_distinct, fun he => ?_⟩
  obtain ⟨f, hf, hserial⟩ := exists_mem_distinct he
  rwa [← eq_of_serial_eq (mem_registrations_of_mem_holders (mem_of_mem_distinct hf))
    (mem_registrations_of_mem_holders he) hserial]

/-- Two holders are composers of different names: the later one has taken all keys of its like. -/
theorem serial_eq_of_composer_eq {key key' : Text} (he : holder? cs key = some e)
    (hf : holder? cs key' = some f) (h : e.composer = f.composer) : e.serial = f.serial := by
  have hnot : ∀ {key key' e f}, holder? cs key = some e → holder? cs key' = some f →
      e.composer = f.composer → ¬ e.serial < f.serial := by
    intro key key' e f he hf h hlt
    refine not_isKeyOf_of_holder? he (of_holder? hf).1 hlt ?_
    rw [← h]
    exact (of_holder? he).2
  exact Nat.le_antisymm (Nat.not_lt.1 (hnot hf he h.symm)) (Nat.not_lt.1 (hnot he hf h))

theorem nodup_composers (cs : List Composer) : (empty.registerAll cs).composers.Nodup := by
  have hordered := pairwise_distinct (holders cs)
  rw [← listed_registerAll] at hordered
  rw [composers_eq]
  refine List.pairwise_map.2 (hordered.imp_of_mem fun {e f} he hf hlt heq => ?_)
  obtain ⟨key, hkey⟩ := mem_listed_iff.1 he
  obtain ⟨key', hkey'⟩ := mem_listed_iff.1 hf
  rw [serial_eq_of_composer_eq hkey hkey' heq] at hlt
  exact Nat.lt_irrefl _ hlt

/-- **A registration under new keys comes last**, and no other one moves. -/
theorem composers_concat_of_new (h : ∀ key ∈ keysOf c, key ∉ keyUses cs) :
    (empty.registerAll (cs ++ [c])).composers = (empty.registerAll cs).composers ++ [c] := by
  have hold : ∀ key ∈ keyUses cs, holder? (cs ++ [c]) key = holder? cs key := by
    intro key hkey
    rw [holder?_concat, if_neg]
    exact fun hown => h key (mem_keysOf_iff.2 hown) hkey
  have hnew : ∀ key ∈ keysOf c, holder? (cs ++ [c]) key = some ⟨cs.length, c⟩ := by
    intro key hkey
    rw [holder?_concat, if_pos (mem_keysOf_iff.1 hkey)]
  have hholders : holders (cs ++ [c]) = holders cs ++ [⟨cs.length, c⟩] ++ [⟨cs.length, c⟩] := by
    rw [holders, keyUses, List.flatMap_append, List.filterMap_append, ← keyUses,
      List.filterMap_congr hold, ← holders, List.flatMap_singleton, List.filterMap_congr hnew]
    simp [keysOf]
  have hserial : ∀ f ∈ holders cs, f.serial ≠ cs.length := by
    intro f hf
    have hget := mem_registrations_iff.1 (mem_registrations_of_mem_holders hf)
    exact Nat.ne_of_lt (List.getElem?_eq_some_iff.1 hget).1
  rw [composers_eq, composers_eq, listed_registerAll, listed_registerAll, hholders,
    distinct_concat_of_mem (List.mem_append_right _ List.mem_cons_self), distinct_concat_of_new hserial,
    List.map_append]
  rfl

/-- Registrations that share no key are listed in their order. -/
theorem composers_of_disjoint (h : cs.Pairwise fun a b => ∀ key ∈ keysOf b, key ∉ keysOf a) :
    (empty.registerAll cs).composers = cs := by
  induction cs using List.reverseRecOn with
  | nil => rfl
  | append_singleton cs c ih =>
    obtain ⟨hcs, -, hlast⟩ := List.pairwise_append.1 h
    rw [composers_concat_of_new, ih hcs]
    intro key hkey huse
    obtain ⟨a, ha, hkeya⟩ := List.mem_flatMap.1 huse
    exact hlast a ha c List.mem_cons_self key hkey hkeya

/-- A fresh dispatcher has registered the venues of its registry. -/
theorem registerAll_ofRegistry (r : Registry) (budget : Json) (cs : List Composer) :
    (ofRegistry r budget).registerAll cs = empty.registerAll (venues r budget ++ cs) := by
  rw [registerAll, registerAll, List.foldl_append]
  rfl

/-- What a name stands for holds a key without blanks at its ends. -/
theorem reached_iff :
    (∃ name, (empty.registerAll cs).registered? name = some e) ↔
      ∃ key : Text, key.IsTrimmed ∧ holder? cs key = some e := by
  simp only [registered?, lookup_registerAll]
  constructor
  · rintro ⟨name, h⟩
    exact ⟨_, isTrimmed_lookupKey name, h⟩
  · rintro ⟨key, htrimmed, h⟩
    obtain ⟨own, -, hkey⟩ := isKeyOf_iff.1 (of_holder? h).2
    have hown : own.IsTrimmed := isTrimmed_lower_iff.1 (hkey ▸ htrimmed)
    exact ⟨own, by rw [lookupKey_of_isTrimmed hown, ← hkey, h]⟩

/-- The list of composers after registrations. -/
structure Lists (cs : List Composer) (d : Dispatcher) : Prop where
  /-- It is a list of registrations, -/
  composers_eq : d.composers = d.listed.map Registered.composer
  /-- namely of those that hold a key, -/
  mem_iff : ∀ e, e ∈ d.listed ↔ ∃ key, holder? cs key = some e
  /-- with each composer once, -/
  nodup : d.composers.Nodup
  /-- in the order in which the keys were first used that they hold. -/
  ordered : d.listed.Pairwise fun e f => firstUse cs e < firstUse cs f
  /-- Names stand for registrations, -/
  composer?_eq : ∀ name, d.composer? name = (d.registered? name).map Registered.composer
  /-- namely for those that hold a key without blanks at its ends, -/
  reached_iff : ∀ e, (∃ name, d.registered? name = some e) ↔
    ∃ key : Text, key.IsTrimmed ∧ holder? cs key = some e
  /-- which are all that are listed, if no name of a composer has blanks at its ends. -/
  listed_iff : (∀ c ∈ cs, ∀ own ∈ ownNames c, own.IsTrimmed) →
    ∀ e, e ∈ d.listed ↔ ∃ name, d.registered? name = some e
  /-- Registrations that share no key are listed in their order. -/
  in_order : (cs.Pairwise fun a b => ∀ key ∈ keysOf b, key ∉ keysOf a) → d.composers = cs

theorem lists_registerAll (cs : List Composer) : Lists cs (empty.registerAll cs) where
  composers_eq := composers_eq _
  mem_iff _ := mem_listed_iff
  nodup := nodup_composers cs
  ordered := by
    rw [listed_registerAll]
    exact pairwise_distinct _
  composer?_eq := composer?_eq _
  reached_iff _ := reached_iff
  listed_iff h e := by
    rw [mem_listed_iff, reached_iff]
    refine exists_congr fun key => ⟨fun hkey => ⟨?_, hkey⟩, And.right⟩
    obtain ⟨hregistered, hown⟩ := of_holder? hkey
    obtain ⟨own, hmem, rfl⟩ := isKeyOf_iff.1 hown
    have hcomposer : e.composer ∈ cs := List.mem_of_getElem? (mem_registrations_iff.1 hregistered)
    exact isTrimmed_lower_iff.2 (h _ hcomposer own hmem)
  in_order := composers_of_disjoint

end Dispatcher

open Dispatcher

/-- **The list of composers** after any registrations. -/
theorem composers_listed (r : Registry) (budget : Json) (cs : List Composer) :
    Lists (venues r budget ++ cs) ((ofRegistry r budget).registerAll cs) := by
  rw [registerAll_ofRegistry]
  exact lists_registerAll _

/-- **The list does not follow the registrations**: a venue that is registered again, after the two others,
takes the first place; and a venue whose names have a blank at their ends is listed, though no name stands
for it. -/
theorem listed_out_of_order :
    let fresh := ofRegistry .builtin .null
    let blank : Composer := .raydium (raydiumNamed "raydium ") .null
    (fresh.register (.raydium .builtin .null)).listed.map Registered.serial = [3, 1, 2] ∧
      blank ∈ (fresh.register blank).composers ∧
      ∀ name, (fresh.register blank).composer? name ≠ some blank := by
  intro fresh blank
  refine ⟨by decide +kernel, ?_, ?_⟩
  · have hnew : ∀ key ∈ keysOf blank, key ∉ keyUses (venues .builtin .null) := by decide +kernel
    change blank ∈ (fresh.registerAll [blank]).composers
    rw [registerAll_ofRegistry, composers_concat_of_new hnew]
    exact List.mem_append_right _ List.mem_cons_self
  · intro name hfound
    have hkey : ¬ IsKeyOf (lookupKey name) blank := by
      intro h
      obtain ⟨own, hown, htrimmed, -⟩ := exists_own_of_isKeyOf h
      have hblank : ∀ own ∈ ownNames blank, ¬ own.IsTrimmed := by decide +kernel
      exact hblank own hown htrimmed
    rw [composer?_register, if_neg hkey, ← composer_eq_ok_iff] at hfound
    have hother : ∀ c ∈ venues .builtin .null, c.name ≠ blank.name := by decide +kernel
    exact hother blank ((knowsOnly_ofRegistry _ _).composer_mem hfound) rfl

end CrossVenue
