import CrossVenue.Text.Blank
import CrossVenue.Text.Casing
import Mathlib.Data.List.DropRight

/-!
# Blanks at the ends

What trimming takes away, and that it makes no difference to trimming whether capitals or small letters
stand between the blanks.

* `exists_trim`, `trim_append` : trimming takes away what is to be trimmed at the ends, and nothing else;
* `trim_eq_self_iff` : what is left as it is;
* `trimmed_lower_iff` : lower-casing makes no blank and removes none.
-/

set_option autoImplicit false

namespace CrossVenue

namespace Text

/-! ## Trimming -/

section

variable {α : Type} {p : α → Bool} {xs before after : List α}

theorem exists_trim (p : α → Bool) (xs : List α) : ∃ before after,
    xs = before ++ trim p xs ++ after ∧ (∀ x ∈ before, p x = true) ∧ ∀ x ∈ after, p x = true := by
  refine ⟨xs.takeWhile p, (xs.dropWhile p).rtakeWhile p, ?_, ?_, ?_⟩
  · change xs = xs.takeWhile p ++ (xs.dropWhile p).rdropWhile p ++ _
    rw [List.append_assoc, List.rdropWhile_append_rtakeWhile, List.takeWhile_append_dropWhile]
  · exact fun x hx => List.mem_takeWhile_imp hx
  · exact fun x hx => List.mem_rtakeWhile_imp hx

theorem trim_append (hbefore : ∀ x ∈ before, p x = true) (hafter : ∀ x ∈ after, p x = true) :
    trim p (before ++ xs ++ after) = trim p xs := by
  have hnone : after.dropWhile p = [] := List.dropWhile_eq_nil_iff.2 hafter
  have hend : ∀ ys : List α, trimEnd p (ys ++ after) = trimEnd p ys := by
    intro ys
    rw [trimEnd, List.reverse_append, List.dropWhile_append_of_pos fun x hx =>
      hafter x (List.mem_reverse.1 hx), trimEnd]
  rw [trim, List.append_assoc, List.dropWhile_append_of_pos hbefore, List.dropWhile_append]
  split
  · rename_i hempty
    rw [trim, List.isEmpty_iff.1 hempty, hnone]
  · rw [hend, trim]

/-- A list is left as it is when neither its first nor its last element is to be trimmed. -/
theorem trim_eq_self_iff :
    trim p xs = xs ↔ (∀ x ∈ xs.head?, p x = false) ∧ ∀ x ∈ xs.getLast?, p x = false := by
  have hstart : xs.dropWhile p = xs ↔ ∀ x ∈ xs.head?, p x = false := by
    cases xs with
    | nil => simp
    | cons x xs => simp [List.dropWhile_eq_self_iff]
  have hend : xs.rdropWhile p = xs ↔ ∀ x ∈ xs.getLast?, p x = false := by
    rcases List.eq_nil_or_concat xs with rfl | ⟨ys, y, rfl⟩
    · simp
    · simp [List.rdropWhile_eq_self_iff]
  rw [← hstart, ← hend]
  change (xs.dropWhile p).rdropWhile p = xs ↔ _
  constructor
  · intro h
    have hlength : xs.length ≤ (xs.dropWhile p).length := by
      conv_lhs => rw [← h]
      exact (List.rdropWhile_prefix p _).length_le
    have hdrop : xs.dropWhile p = xs := (List.dropWhile_suffix p).eq_of_length_le hlength
    rw [hdrop] at h
    exact ⟨hdrop, h⟩
  · rintro ⟨h, h'⟩
    rw [h, h']

theorem trim_trim (p : α → Bool) (xs : List α) : trim p (trim p xs) = trim p xs := by
  obtain ⟨before, after, hxs, hbefore, hafter⟩ := exists_trim p xs
  conv_rhs => rw [hxs]
  exact (trim_append hbefore hafter).symm

end

/-! ## Blanks and capitals -/

/-- The code points of all blanks. -/
def blankPoints : List Nat :=
  [0x9, 0xA, 0xB, 0xC, 0xD, 0x1C, 0x1D, 0x1E, 0x1F, 0x20, 0x85, 0xA0, 0x1680, 0x2000, 0x2001, 0x2002,
    0x2003, 0x2004, 0x2005, 0x2006, 0x2007, 0x2008, 0x2009, 0x200A, 0x2028, 0x2029, 0x202F, 0x205F, 0x3000]

end Text

theorem CodePoint.isBlank_iff {p : CodePoint} : p.isBlank = true ↔ p.toNat ∈ Text.blankPoints := by
  cases p with
  | char c =>
    simp only [isBlank, char?, Option.any_some, Text.isBlank, Text.isWhiteSpace, toNat, Text.blankPoints,
      List.mem_cons, List.not_mem_nil, or_false, Bool.or_eq_true, Bool.and_eq_true, decide_eq_true_eq,
      beq_iff_eq]
    omega
  | half n =>
    have := n.isLt
    simp only [isBlank, char?, Option.any_none, toNat, Text.blankPoints, List.mem_cons, List.not_mem_nil,
      or_false, Bool.false_eq_true, false_iff]
    omega

/-- Only the number of a code point is that of the code point of a number, zero apart. -/
theorem CodePoint.toNat_ofNat_of_ne_zero {n : Nat} (h : (ofNat n).toNat ≠ 0) : (ofNat n).toNat = n := by
  unfold ofNat at h ⊢
  split at h
  · rename_i hhalf
    simp only [dif_pos hhalf, toNat]
    omega
  · rename_i hhalf
    rw [dif_neg hhalf, toNat]
    rw [toNat] at h
    by_cases hvalid : n.isValidChar
    · rw [Char.ofNat, dif_pos hvalid]
      rfl
    · rw [Char.ofNat, dif_neg hvalid] at h
      exact absurd rfl h

namespace Text

/-- Blanks are no capitals, nor small letters of capitals. -/
theorem capitals_blankless : ∀ r ∈ capitals, ∀ b ∈ blankPoints, ¬ (r.first ≤ b ∧ b ≤ r.last) ∧
    ¬ ((r.first : Int) ≤ b - r.distance ∧ (b : Int) - r.distance ≤ r.last) := by
  decide +kernel

theorem isBlank_lowerPoint (p : CodePoint) : (lowerPoint p).isBlank = p.isBlank := by
  unfold lowerPoint
  dsimp only
  split
  · rename_i r hr
    have hmem := List.mem_of_find?_eq_some hr
    have hin := List.find?_some hr
    simp only [Bool.and_eq_true, decide_eq_true_eq] at hin
    rw [Bool.eq_iff_iff, CodePoint.isBlank_iff, CodePoint.isBlank_iff]
    refine iff_of_false (fun hb => ?_) fun hb => (capitals_blankless r hmem _ hb).1 hin.1
    have hne : (CodePoint.ofNat ((p.toNat : Int) + r.distance).toNat).toNat ≠ 0 := by
      intro hzero
      rw [hzero] at hb
      exact absurd hb (by decide)
    have heq := CodePoint.toNat_ofNat_of_ne_zero hne
    have hnot := (capitals_blankless r hmem _ hb).2
    omega
  · rfl

/-- A code point becomes at least one, which are blanks if it is one. -/
theorem lowerFrom_cons (before : List CodePoint) (p : CodePoint) (ps : List CodePoint) :
    ∃ ls, lowerFrom before (p :: ps) = ls ++ lowerFrom (p :: before) ps ∧ ls ≠ [] ∧
      ∀ q ∈ ls, q.isBlank = p.isBlank := by
  rw [lowerFrom]
  refine ⟨_, rfl, ?_, ?_⟩
  · split
    · simp
    · split
      · split <;> simp
      · simp
  · split
    · rename_i hp
      subst hp
      decide
    · split
      · rename_i hp
        subst hp
        split <;> decide
      · intro q hq
        rw [List.mem_singleton.1 hq, isBlank_lowerPoint]

theorem head?_lowerFrom (before ps : List CodePoint) :
    (lowerFrom before ps).head?.map CodePoint.isBlank = ps.head?.map CodePoint.isBlank := by
  cases ps with
  | nil => rfl
  | cons p ps =>
    obtain ⟨ls, heq, hne, hblank⟩ := lowerFrom_cons before p ps
    obtain ⟨q, rest, rfl⟩ := List.exists_cons_of_ne_nil hne
    rw [heq]
    simp [hblank q List.mem_cons_self]

theorem getLast?_lowerFrom (before ps : List CodePoint) :
    (lowerFrom before ps).getLast?.map CodePoint.isBlank = ps.getLast?.map CodePoint.isBlank := by
  induction ps generalizing before with
  | nil => rfl
  | cons p ps ih =>
    obtain ⟨ls, heq, hne, hblank⟩ := lowerFrom_cons before p ps
    rw [heq, List.getLast?_append]
    cases ps with
    | nil =>
      obtain ⟨rest, q, rfl⟩ := List.eq_nil_or_concat ls |>.resolve_left hne
      simp [lowerFrom, hblank q (by simp)]
    | cons q qs =>
      obtain ⟨ms, heq', hne', -⟩ := lowerFrom_cons (p :: before) q qs
      have hsome : (lowerFrom (p :: before) (q :: qs)).getLast?.isSome = true := by
        simp [heq', List.getLast?_isSome, hne']
      rw [Option.or_of_isSome hsome, ih, List.getLast?_cons_cons]

/-- **Lower-casing makes no blank at the ends and removes none.** -/
theorem trimmed_lower_iff {t : Text} : (lower t).trimmed = lower t ↔ t.trimmed = t := by
  have hend : ∀ o : Option CodePoint, (∀ p ∈ o, p.isBlank = false) ↔
      o.map CodePoint.isBlank ≠ some true := by
    intro o
    cases o <;> simp
  simp only [trimmed, Text.ext_iff, trim_eq_self_iff, hend]
  rw [lower, head?_lowerFrom, getLast?_lowerFrom]

end Text

end CrossVenue
