import CrossVenue.Proofs.Json.Text
import CrossVenue.Proofs.Text.Numeral

/-!
# Words and integers read back

What follows a value decides where its last token ends: after a written value stands a comma, a closing
bracket or nothing, none of which goes on with a number.

* `spanDigits_append` : a run of digits is read up to its end;
* `readScalar_word` : the words for null and for truth values are read back;
* `readScalar_int` : an integer that can be written is read back.
-/

set_option autoImplicit false

namespace CrossVenue.Json

open Text (withSign digitsValue)

/-- What may follow a value: a comma, a closing bracket, or nothing. -/
def Ends (rest : List CodePoint) : Prop :=
  ∀ p ps, rest = p :: ps → p = ',' ∨ p = ']' ∨ p = '\x7d'

theorem ends_nil : Ends [] := by intro p ps h; cases h

theorem ends_cons {c : Char} (h : c = ',' ∨ c = ']' ∨ c = '\x7d') (ps : List CodePoint) :
    Ends (.char c :: ps) := by
  rintro p qs heq
  cases heq
  rcases h with rfl | rfl | rfl <;> simp

/-! ## Words -/

/-- A word is read back, whatever comes after it. -/
theorem readScalar_word {w : String × Json} (h : w ∈ words.take 3) (rest : List CodePoint) :
    readScalar (points w.1.toList ++ rest) = .ok (w.2, rest) := by
  simp only [words, List.take_succ_cons, List.take_zero, List.mem_cons, List.not_mem_nil,
    or_false] at h
  rcases h with rfl | rfl | rfl <;> simp [readScalar, readWord?, words, after?]

/-- A digit begins no word. -/
theorem readWord?_digit {c : Char} (hc : c.isDigit = true) (ps : List CodePoint) :
    readWord? (.char c :: ps) = none := by
  have hne : ∀ d : Char, d.isDigit = false → c ≠ d := by
    rintro d hd rfl
    rw [hc] at hd
    cases hd
  simp [readWord?, words, after?, hne 'n' (by decide), hne 't' (by decide), hne 'f' (by decide),
    hne 'N' (by decide), hne 'I' (by decide), hne '-' (by decide)]

/-- A minus in front of a digit begins no word. -/
theorem readWord?_minus {c : Char} (hc : c.isDigit = true) (ps : List CodePoint) :
    readWord? (.char '-' :: .char c :: ps) = none := by
  have hne : c ≠ 'I' := by rintro rfl; revert hc; decide
  simp [readWord?, words, after?, hne]

/-! ## Integers -/

theorem spanDigits_of_ends {rest : List CodePoint} (hr : Ends rest) : spanDigits rest = ([], rest) := by
  cases rest with
  | nil => rfl
  | cons p ps => rcases hr p ps rfl with rfl | rfl | rfl <;> rfl

theorem spanDigits_append {ds : List Char} {rest : List CodePoint}
    (hd : ∀ c ∈ ds, c.isDigit = true) (hr : Ends rest) :
    spanDigits (points ds ++ rest) = (ds, rest) := by
  induction ds with
  | nil => exact spanDigits_of_ends hr
  | cons c ds ih =>
    have hc := hd c (by simp)
    simp [spanDigits, hc, ih fun x hx => hd x (by simp [hx])]

theorem readNumberTail_of_ends {negative : Bool} {whole : List Char} {rest : List CodePoint}
    (hw : whole.length ≤ Number.maxDigits) (hr : Ends rest) :
    readNumberTail negative whole rest = .ok (.int (withSign negative (digitsValue whole)), rest) := by
  have hf : readFraction rest = ([], rest) := by
    cases rest with
    | nil => rfl
    | cons p ps => rcases hr p ps rfl with rfl | rfl | rfl <;> rfl
  have he : readExponent rest = (none, rest) := by
    cases rest with
    | nil => rfl
    | cons p ps => rcases hr p ps rfl with rfl | rfl | rfl <;> rfl
  simp [readNumberTail, hf, he, hw]

theorem readNumber_toDigits {n : Nat} (hn : n < Number.tooLong) (all : List CodePoint)
    (negative : Bool) {rest : List CodePoint} (hr : Ends rest) :
    readNumber all negative (points (Nat.toDigits 10 n) ++ rest) =
      .ok (.int (withSign negative n), rest) := by
  unfold readNumber
  split
  · -- only the number zero begins with a zero
    rename_i tail heq
    have hz : n = 0 := by
      refine Nat.eq_zero_of_not_pos fun hpos => ?_
      have hh := Text.head_ne_zero hpos
      cases hd : Nat.toDigits 10 n with
      | nil => exact Nat.toDigits_ne_nil hd
      | cons c cs =>
        rw [hd] at hh heq
        simp only [points_cons, List.cons_append, List.cons.injEq, CodePoint.char.injEq] at heq
        exact hh (by rw [List.head?_cons, heq.1])
    subst hz
    have ht : tail = rest := by simpa using heq.symm
    rw [ht, readNumberTail_of_ends (by decide) hr]
    rfl
  · have hd : ∀ c ∈ Nat.toDigits 10 n, c.isDigit = true := fun c hc => Text.isDigit_of_mem hc
    have hne : (Nat.toDigits 10 n).isEmpty = false := by simp
    simp only [spanDigits_append hd hr, hne, Bool.false_eq_true, if_false]
    rw [readNumberTail_of_ends (Text.length_le_of_lt_tooLong hn) hr, Text.digitsValue_toDigits]

/-- What begins with a digit is a number without a sign. -/
theorem readScalar_digit {c : Char} (hc : c.isDigit = true) (ps : List CodePoint) :
    readScalar (.char c :: ps) = readNumber (.char c :: ps) false (.char c :: ps) := by
  unfold readScalar
  rw [readWord?_digit hc]
  split
  · rename_i h
    cases h
  · split
    · rename_i heq
      simp only [List.cons.injEq, CodePoint.char.injEq] at heq
      exact absurd hc (by rw [heq.1]; decide)
    · rfl

/-- The characters of an integer: its digits, after a minus if it is negative. -/
theorem toString_int_eq (n : Int) :
    (toString n).toList = if 0 ≤ n then Nat.toDigits 10 n.natAbs else '-' :: Nat.toDigits 10 n.natAbs := by
  rw [Int.toString_eq_repr, Int.repr_eq_if]
  split
  · rw [Nat.toList_repr, show n.toNat = n.natAbs by omega]
  · rw [String.toList_append, Nat.toList_repr, show (-n).toNat = n.natAbs by omega]
    rfl

/-- **An integer that can be written is read back.** -/
theorem readScalar_int {n : Int} (hn : Number.isWritable n = true) {rest : List CodePoint}
    (hr : Ends rest) : readScalar (points (toString n).toList ++ rest) = .ok (.int n, rest) := by
  have hw : n.natAbs < Number.tooLong := by simpa [Number.isWritable] using hn
  obtain ⟨c, cs, hcs⟩ : ∃ c cs, Nat.toDigits 10 n.natAbs = c :: cs :=
    List.exists_cons_of_ne_nil Nat.toDigits_ne_nil
  have hc : c.isDigit = true := Text.isDigit_of_mem (n := n.natAbs) (by rw [hcs]; simp)
  have hread := fun all negative => readNumber_toDigits hw all negative hr
  rw [toString_int_eq]
  rw [hcs] at hread ⊢
  split
  · rename_i hpos
    simp only [points_cons, List.cons_append] at hread ⊢
    rw [readScalar_digit hc, hread]
    simp only [withSign, Bool.false_eq_true, if_false]
    rw [show (n.natAbs : Int) = n by omega]
  · rename_i hneg
    simp only [points_cons, List.cons_append] at hread ⊢
    rw [readScalar, readWord?_minus hc]
    simp only [hread, withSign, if_true]
    rw [show -(n.natAbs : Int) = n by omega]

end CrossVenue.Json
