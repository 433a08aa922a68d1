import CrossVenue.Text.Basic

/-!
# Blank characters

Two sets of blanks: the white-space property of Unicode, and the wider set that adds the four
information separators.  Lists are trimmed by any test, texts by the wider set.

* `isBlank_of_isWhiteSpace` : the wider set contains the narrower;
* `isWhiteSpace_of_isWhitespace` : both contain the ASCII blanks of the core library.
-/

set_option autoImplicit false

namespace CrossVenue

namespace Text

/-- The white-space property of Unicode. -/
def isWhiteSpace (c : Char) : Bool :=
  let n := c.toNat
  (9 ≤ n && n ≤ 13) || n == 0x20 || n == 0x85 || n == 0xA0 || n == 0x1680 ||
    (0x2000 ≤ n && n ≤ 0x200A) || n == 0x2028 || n == 0x2029 || n == 0x202F || n == 0x205F ||
    n == 0x3000

/-- White space together with the information separators U+001C to U+001F. -/
def isBlank (c : Char) : Bool :=
  isWhiteSpace c || (0x1C ≤ c.toNat && c.toNat ≤ 0x1F)

/-- The elements without the longest tail that satisfies `p`. -/
def trimEnd {α : Type} (p : α → Bool) (xs : List α) : List α := (xs.reverse.dropWhile p).reverse

/-- The elements without the longest head and tail that satisfy `p`. -/
def trim {α : Type} (p : α → Bool) (xs : List α) : List α := trimEnd p (xs.dropWhile p)

theorem isBlank_of_isWhiteSpace {c : Char} (h : isWhiteSpace c = true) : isBlank c = true := by
  simp [isBlank, h]

theorem isWhiteSpace_of_isWhitespace {c : Char} (h : c.isWhitespace = true) :
    isWhiteSpace c = true := by
  simp only [Char.isWhitespace, Bool.or_eq_true, decide_eq_true_eq] at h
  rcases h with ((h | h) | h) | h <;> subst h <;> decide

end Text

/-- Is the code point a blank character? -/
def CodePoint.isBlank (p : CodePoint) : Bool := p.char?.any Text.isBlank

/-- The text without blanks at its ends. -/
def Text.trimmed (t : Text) : Text := ⟨Text.trim CodePoint.isBlank t.toList⟩

end CrossVenue
