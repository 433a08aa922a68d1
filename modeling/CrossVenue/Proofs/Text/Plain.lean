import CrossVenue.Json.Parts
import CrossVenue.Text.Sentence

/-!
# What is plain

Halves come into a message only with the texts that it shows: numbers, fixed words and quoted text are
plain.

* `isPlain_append`, `isPlain_intercalate` : texts that are put together;
* `Sentence.Sayable` : all parts of a sentence can be written, and all of them are plain.
-/

set_option autoImplicit false

namespace CrossVenue

/-! ## Texts -/

namespace Text

@[simp]
theorem isPlain_ofString (s : String) : (ofString s).isPlain = true := isPlain_iff.2 ⟨s, rfl⟩

@[simp]
theorem isPlain_append (s t : Text) : (s ++ t).isPlain = (s.isPlain && t.isPlain) := by
  simp [isPlain]

/-- A text is plain if all its code points stand in plain texts. -/
theorem isPlain_of_forall_mem {t : Text}
    (h : ∀ p ∈ t.toList, ∃ s : Text, s.isPlain = true ∧ p ∈ s.toList) : t.isPlain = true := by
  refine List.all_eq_true.2 fun p hp => ?_
  obtain ⟨s, hs, hmem⟩ := h p hp
  exact List.all_eq_true.1 hs p hmem

theorem isPlain_of_subset {s t : Text} (ht : t.isPlain = true) (h : s.toList ⊆ t.toList) :
    s.isPlain = true :=
  isPlain_of_forall_mem fun _ hp => ⟨t, ht, h hp⟩

theorem isPlain_intercalate {between : Text} (hb : between.isPlain = true) {ts : List Text}
    (h : ∀ t ∈ ts, t.isPlain = true) : (intercalate between ts).isPlain = true := by
  unfold intercalate
  induction ts with
  | nil => rfl
  | cons t ts ih =>
    rw [List.forall_mem_cons] at h
    have ih := ih h.2
    cases ts with
    | nil => simpa [isPlain] using h.1
    | cons u us =>
      simp only [isPlain, List.map_cons, List.intercalate_cons_cons, List.all_append,
        Bool.and_eq_true] at ih ⊢
      exact ⟨⟨h.1, hb⟩, ih⟩

end Text

/-! ## Sentences -/

/-- Can a part be written, and is it plain? -/
def Piece.Sayable : Piece → Prop
  | text t => t.isPlain = true
  | number n => Number.isWritable n = true

@[simp]
theorem Piece.sayable_text (t : Text) : (Piece.text t).Sayable ↔ t.isPlain = true := Iff.rfl

@[simp]
theorem Piece.sayable_number (n : Int) :
    (Piece.number n).Sayable ↔ Number.isWritable n = true := Iff.rfl

theorem Piece.Sayable.isWritable {p : Piece} (h : p.Sayable) : p.isWritable = true := by
  cases p with
  | text t => rfl
  | number n => exact h

theorem Piece.Sayable.isPlain {p : Piece} (h : p.Sayable) : p.written.isPlain = true := by
  cases p with
  | text t => exact h
  | number n => exact Text.isPlain_ofString _

/-- Can all parts of a sentence be written, and are they plain? -/
def Sentence.Sayable (s : Sentence) : Prop := ∀ p ∈ s, p.Sayable

namespace Sentence

@[simp]
theorem sayable_nil : Sayable [] := List.forall_mem_nil _

@[simp]
theorem sayable_cons {p : Piece} {s : Sentence} : Sayable (p :: s) ↔ p.Sayable ∧ Sayable s :=
  List.forall_mem_cons

@[simp]
theorem sayable_append {s t : Sentence} : Sayable (s ++ t) ↔ s.Sayable ∧ t.Sayable :=
  List.forall_mem_append

@[simp]
theorem sayable_join {parts : List Sentence} : (join parts).Sayable ↔ ∀ s ∈ parts, s.Sayable :=
  List.forall_mem_flatten

theorem Sayable.isWritable {s : Sentence} (h : s.Sayable) : s.isWritable = true :=
  List.all_eq_true.2 fun p hp => (h p hp).isWritable

/-- Numbers are plain however long they are. -/
theorem isPlain_text {s : Sentence} (h : ∀ p ∈ s, p.written.isPlain = true) :
    s.text.isPlain = true := by
  refine Text.isPlain_of_forall_mem fun c hc => ?_
  obtain ⟨p, hp, hmem⟩ := List.mem_flatMap.1 hc
  exact ⟨p.written, h p hp, hmem⟩

theorem Sayable.isPlain_text {s : Sentence} (h : s.Sayable) : s.text.isPlain = true :=
  Sentence.isPlain_text fun p hp => (h p hp).isPlain

theorem sayable_of_isPlain_text {s : Sentence} (hw : s.isWritable = true)
    (hp : s.text.isPlain = true) : s.Sayable := by
  intro p hmem
  cases p with
  | number n =>
    have hnumber := List.all_eq_true.1 hw _ hmem
    rwa [Piece.isWritable_number] at hnumber
  | text t =>
    refine Text.isPlain_of_subset hp fun c hc => ?_
    exact List.mem_flatMap.2 ⟨.text t, hmem, hc⟩

end Sentence

theorem Json.isPlain_str_iff {s : Text} : (str s).isPlain = true ↔ s.isPlain = true := by
  simp [isPlain, every]

end CrossVenue
