import CrossVenue.Number.Digits
import CrossVenue.Text.Basic

/-!
# Sentences

A message is put together from texts and integers.  It can be written only if all its integers have
few enough digits; `isWritable_of_noNumber` says that a sentence of texts always can.
-/

set_option autoImplicit false

namespace CrossVenue

/-- A part of a sentence. -/
inductive Piece
  | text (t : Text)
  | number (n : Int)
deriving DecidableEq, Repr

namespace Piece

instance : Coe Text Piece := ⟨text⟩

instance : Coe String Piece := ⟨fun s => text s⟩

instance : Coe Int Piece := ⟨number⟩

instance : Coe Nat Piece := ⟨fun n => number n⟩

/-- The part as it is written. -/
def written : Piece → Text
  | text t => t
  | number n => toString n

/-- Can the part be written? -/
def isWritable : Piece → Bool
  | text _ => true
  | number n => Number.isWritable n

@[simp]
theorem isWritable_text (t : Text) : (text t).isWritable = true := rfl

@[simp]
theorem isWritable_number (n : Int) : (number n).isWritable = Number.isWritable n := rfl

end Piece

/-- Texts and integers in order. -/
abbrev Sentence := List Piece

namespace Sentence

instance : Coe Text Sentence := ⟨fun t => [t]⟩

instance : Coe String Sentence := ⟨fun s => [s]⟩

instance : Coe Piece Sentence := ⟨fun p => [p]⟩

/-- Sentences one after another, as parts of one. -/
def join (parts : List Sentence) : Sentence := parts.flatten

/-- The sentence as a text. -/
def text (s : Sentence) : Text := ⟨s.flatMap fun p => p.written.toList⟩

/-- Can all parts be written? -/
def isWritable (s : Sentence) : Bool := s.all Piece.isWritable

@[simp]
theorem text_singleton (t : Text) : text [Piece.text t] = t := by
  ext1
  simp [text, Piece.written]

@[simp]
theorem isWritable_nil : isWritable [] = true := rfl

@[simp]
theorem isWritable_cons {p : Piece} {s : Sentence} :
    isWritable (p :: s) = (p.isWritable && s.isWritable) := rfl

@[simp]
theorem isWritable_join (parts : List Sentence) :
    (join parts).isWritable = parts.all isWritable := by
  simp [join, isWritable, List.all_flatten]
  rfl

theorem isWritable_of_noNumber {s : Sentence} (h : ∀ n, Piece.number n ∉ s) :
    s.isWritable = true := by
  simp only [isWritable, List.all_eq_true]
  intro p hp
  cases p with
  | text t => rfl
  | number n => exact absurd hp (h n)

end Sentence

end CrossVenue
