import CrossVenue.Proofs.Json.Bytes

/-!
# Compact text

A scanner that looks at one character after the other tells what stands outside of strings: it leaves a
string at a quote that no backslash precedes.  On the text of a value it meets no blank there, and at the
end of the text it is outside again, so nothing in a string can end the string.

* `Quoting`, `bare` : the scanner, and what it finds outside of strings;
* `tidy_writtenText` : a text between quotes, whatever it holds;
* `chars_tidy` : a value.
-/

set_option autoImplicit false

namespace CrossVenue.Json

/-- Where a character of JSON text stands. -/
inductive Quoting
  | outside
  | inside
  /-- Inside of a string, after a backslash. -/
  | escaped
deriving DecidableEq, Repr

/-- The place after a character. -/
def Quoting.next : Quoting → Char → Quoting
  | outside, c => if c = '\"' then inside else outside
  | inside, c => if c = '\"' then outside else if c = '\\' then escaped else inside
  | escaped, _ => inside

/-- The characters that stand outside of strings. -/
def bare : Quoting → List Char → List Char
  | _, [] => []
  | .outside, c :: cs => c :: bare (Quoting.next .outside c) cs
  | p, c :: cs => bare (p.next c) cs

theorem bare_append (p : Quoting) (cs ds : List Char) :
    bare p (cs ++ ds) = bare p cs ++ bare (cs.foldl Quoting.next p) ds := by
  induction cs generalizing p with
  | nil => cases p <;> rfl
  | cons c cs ih => cases p <;> simp [bare, ih]

/-! ## Strings -/

/-- Characters that keep the scanner inside of a string. -/
def Enclosed (cs : List Char) : Prop := cs.foldl Quoting.next .inside = .inside ∧ bare .inside cs = []

instance (cs : List Char) : Decidable (Enclosed cs) := inferInstanceAs (Decidable (_ ∧ _))

theorem Enclosed.append {cs ds : List Char} (hc : Enclosed cs) (hd : Enclosed ds) :
    Enclosed (cs ++ ds) := by
  refine ⟨?_, ?_⟩
  · rw [List.foldl_append, hc.1, hd.1]
  · rw [bare_append, hc.1, hc.2, hd.2, List.append_nil]

theorem Enclosed.flatMap {α : Type} {f : α → List Char} {xs : List α} (h : ∀ x ∈ xs, Enclosed (f x)) :
    Enclosed (xs.flatMap f) := by
  induction xs with
  | nil => exact ⟨rfl, rfl⟩
  | cons x xs ih =>
    rw [List.flatMap_cons]
    exact (h x (by simp)).append (ih fun y hy => h y (List.mem_cons_of_mem x hy))

theorem enclosed_singleton {c : Char} (hq : c ≠ '\"') (hb : c ≠ '\\') : Enclosed [c] := by
  simp [Enclosed, Quoting.next, bare, hq, hb]

theorem enclosed_digit : ∀ n, n < 16 → Enclosed [Hex.digit n] := by decide

theorem enclosed_escapedUnit (n : Nat) : Enclosed (escapedUnit n) := by
  have hlead : Enclosed ['\\', 'u'] := by decide
  have h1 := enclosed_digit (n / 16 / 16 / 16 % 16) (by omega)
  have h2 := enclosed_digit (n / 16 / 16 % 16) (by omega)
  have h3 := enclosed_digit (n / 16 % 16) (by omega)
  have h4 := enclosed_digit (n % 16) (by omega)
  exact hlead.append (((h1.append h2).append h3).append h4)

/-- **No character ends its string**, written as it is. -/
theorem enclosed_writtenChar (c : Char) : Enclosed (writtenChar c) := by
  unfold writtenChar
  split
  · decide
  split
  · decide
  split
  · decide
  split
  · decide
  split
  · decide
  split
  · decide
  split
  · decide
  split
  · exact enclosed_singleton ‹_› ‹_›
  split
  · exact enclosed_escapedUnit _
  · exact (enclosed_escapedUnit _).append (enclosed_escapedUnit _)

theorem enclosed_writtenPoint (p : CodePoint) : Enclosed (writtenPoint p) := by
  cases p with
  | char c => exact enclosed_writtenChar c
  | half n => exact enclosed_escapedUnit _

/-! ## Values -/

/-- Text that is scanned from outside of strings to outside of strings, with no blank there. -/
def Tidy (cs : List Char) : Prop :=
  cs.foldl Quoting.next .outside = .outside ∧ ∀ c ∈ bare .outside cs, isGap c = false

theorem tidy_nil : Tidy [] := ⟨rfl, by simp [bare]⟩

theorem Tidy.append {cs ds : List Char} (hc : Tidy cs) (hd : Tidy ds) : Tidy (cs ++ ds) := by
  refine ⟨?_, ?_⟩
  · rw [List.foldl_append, hc.1, hd.1]
  · rw [bare_append, hc.1, List.forall_mem_append]
    exact ⟨hc.2, hd.2⟩

theorem tidy_singleton {c : Char} (hq : c ≠ '\"') (hg : isGap c = false) : Tidy [c] := by
  simp [Tidy, Quoting.next, bare, hq, hg]

/-- Characters that neither begin a string nor are blank. -/
theorem tidy_of_forall {cs : List Char} (h : ∀ c ∈ cs, c ≠ '\"' ∧ isGap c = false) : Tidy cs := by
  induction cs with
  | nil => exact tidy_nil
  | cons c cs ih =>
    obtain ⟨hc, hcs⟩ := List.forall_mem_cons.1 h
    exact (tidy_singleton hc.1 hc.2).append (ih hcs)

theorem tidy_of_all {cs : List Char} (h : (cs.all fun c => c ≠ '\"' && !isGap c) = true) : Tidy cs := by
  refine tidy_of_forall fun c hc => ?_
  simpa using List.all_eq_true.1 h c hc

/-- **A text between quotes is one string**, whatever it holds. -/
theorem tidy_writtenText (t : Text) : Tidy (writtenText t) := by
  have hbody : Enclosed (t.toList.flatMap writtenPoint) := .flatMap fun p _ => enclosed_writtenPoint p
  refine ⟨?_, ?_⟩
  · simp only [writtenText, List.cons_append, List.foldl_cons, List.foldl_append, Quoting.next, if_true,
      hbody.1, List.foldl_nil]
  · have hbare : bare .outside (writtenText t) = ['\"'] := by
      simp only [writtenText, List.cons_append, bare, Quoting.next, if_true, bare_append, hbody.1,
        hbody.2, List.nil_append]
    rw [hbare]
    exact List.forall_mem_singleton.2 rfl

theorem tidy_int (n : Int) : Tidy (toString n).toList := by
  refine tidy_of_forall fun c hc => ?_
  rcases int_chars n c hc with rfl | hd
  · decide
  · refine ⟨?_, (starts_of_isDigit hd).1⟩
    rintro rfl
    revert hd
    decide

mutual

theorem chars_tidy : ∀ (v : Json) (room : Nat), v.IsReadable room → Tidy v.chars
  | .null, _, _ => tidy_of_all (by decide)
  | .bool true, _, _ => tidy_of_all (by decide)
  | .bool false, _, _ => tidy_of_all (by decide)
  | .int n, _, _ => tidy_int n
  | .float x, _, hv => absurd hv (by simp [IsReadable])
  | .str s, _, _ => tidy_writtenText s
  | .arr items, room, hv =>
    ((tidy_singleton (by decide) rfl).append (itemChars_tidy items (room - 1) hv.2)).append
      (tidy_singleton (by decide) rfl)
  | .obj fields, room, hv =>
    ((tidy_singleton (by decide) rfl).append (fieldChars_tidy fields (room - 1) hv.2.2)).append
      (tidy_singleton (by decide) rfl)

theorem itemChars_tidy : ∀ (items : List Json) (room : Nat), AreReadable items room →
    Tidy (itemChars items)
  | [], _, _ => tidy_nil
  | [v], room, hv => chars_tidy v room hv.1
  | v :: w :: items, room, hv =>
    (chars_tidy v room hv.1).append
      ((tidy_singleton (by decide) rfl).append (itemChars_tidy (w :: items) room hv.2))

theorem fieldChars_tidy : ∀ (fields : List (Text × Json)) (room : Nat), HaveReadable fields room →
    Tidy (fieldChars fields)
  | [], _, _ => tidy_nil
  | [(name, v)], room, hv =>
    (tidy_writtenText name).append ((tidy_singleton (by decide) rfl).append (chars_tidy v room hv.1))
  | (name, v) :: p :: fields, room, hv =>
    ((tidy_writtenText name).append
      ((tidy_singleton (by decide) rfl).append (chars_tidy v room hv.1))).append
        ((tidy_singleton (by decide) rfl).append (fieldChars_tidy (p :: fields) room hv.2))

end

end CrossVenue.Json
