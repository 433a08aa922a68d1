import CrossVenue.Json.Reader
import CrossVenue.Json.Writer
import Mathlib.Data.List.Chain

/-!
# Texts read back

A text that stands between quotes is read back, but for one thing: a high half that a low half follows
was written as a pair, and a pair is read as one character.  A plain text is read back as it was.

* `itemsUntilQuote_writtenPoint` : how one code point is read back;
* `joinItems_itemsOfPoint` : what the items of a text are joined to;
* `readText_writtenText` : the quoted text of `t` is read as `t.rejoined`;
* `rejoined_of_isPlain` : nothing in a plain text is joined;
* `rejoined_eq_self_iff` : nothing is joined exactly in texts without pairs of halves.
-/

set_option autoImplicit false

namespace CrossVenue

namespace Text

open CrossVenue.Text.Units (isHigh isLow joined)

/-- The code points, with every high half that a low half follows joined to it. -/
def joinHalves : List CodePoint → List CodePoint
  | [] => []
  | [p] => [p]
  | p :: q :: rest =>
    if isHigh p.toNat && isLow q.toNat then joined p.toNat q.toNat :: joinHalves rest
    else p :: joinHalves (q :: rest)

/-- The text with its pairs of halves joined. -/
def rejoined (t : Text) : Text := ⟨joinHalves t.toList⟩

theorem char_not_half (c : Char) : c.toNat < 0xD800 ∨ (0xDFFF < c.toNat ∧ c.toNat < 0x110000) :=
  c.valid

theorem isHigh_char (c : Char) : isHigh c.toNat = false := by
  have := char_not_half c
  simp only [isHigh, Bool.and_eq_false_iff, decide_eq_false_iff_not]
  omega

theorem isLow_char (c : Char) : isLow c.toNat = false := by
  have := char_not_half c
  simp only [isLow, Bool.and_eq_false_iff, decide_eq_false_iff_not]
  omega

theorem joinHalves_char (c : Char) (ps : List CodePoint) :
    joinHalves (.char c :: ps) = .char c :: joinHalves ps := by
  cases ps with
  | nil => rfl
  | cons p ps => simp [joinHalves, CodePoint.toNat, isHigh_char]

@[simp]
theorem rejoined_ofString (s : String) : rejoined s = s := by
  obtain ⟨cs, rfl⟩ : ∃ cs, s = String.ofList cs := ⟨s.toList, by simp⟩
  ext1
  simp only [rejoined, toList_ofString, String.toList_ofList]
  induction cs with
  | nil => rfl
  | cons c cs ih => rw [List.map_cons, joinHalves_char, ih]

theorem rejoined_of_isPlain {t : Text} (h : t.isPlain = true) : t.rejoined = t := by
  obtain ⟨s, rfl⟩ := isPlain_iff.1 h
  exact rejoined_ofString s

theorem joinHalves_length_le (ps : List CodePoint) : (joinHalves ps).length ≤ ps.length := by
  fun_induction joinHalves ps with
  | case1 => exact Nat.le_refl _
  | case2 p => exact Nat.le_refl _
  | case3 p q rest h ih =>
    simp only [List.length_cons]
    omega
  | case4 p q rest h ih => exact Nat.succ_le_succ ih

/-- No high half is directly followed by a low one. -/
def Unpaired (t : Text) : Prop :=
  t.toList.IsChain fun p q => ¬ (isHigh p.toNat && isLow q.toNat)

instance (t : Text) : Decidable t.Unpaired := inferInstanceAs (Decidable (List.IsChain _ _))

theorem joinHalves_eq_self_iff {ps : List CodePoint} :
    joinHalves ps = ps ↔ ps.IsChain fun p q => ¬ (isHigh p.toNat && isLow q.toNat) := by
  fun_induction joinHalves ps with
  | case1 => simp
  | case2 p => simp
  | case3 p q rest h ih =>
    -- what is joined is shorter
    have hlen := joinHalves_length_le rest
    rw [List.isChain_cons_cons]
    refine iff_of_false (fun heq => ?_) fun hchain => hchain.1 h
    have heqlen := congrArg List.length heq
    simp only [List.length_cons] at heqlen
    omega
  | case4 p q rest h ih =>
    rw [List.isChain_cons_cons, List.cons.injEq, ih]
    exact ⟨fun hrest => ⟨h, hrest.2⟩, fun hchain => ⟨rfl, hchain.2⟩⟩

/-- **Nothing is joined exactly in texts without pairs of halves.** -/
theorem rejoined_eq_self_iff {t : Text} : t.rejoined = t ↔ t.Unpaired := by
  rw [rejoined, Unpaired, ← joinHalves_eq_self_iff]
  exact ⟨fun h => congrArg toList h, fun h => by rw [h]⟩

end Text

namespace Json

open Text.Units (isHigh isLow joined)

/-- The code points of characters. -/
def points (cs : List Char) : List CodePoint := cs.map .char

@[simp]
theorem points_nil : points [] = [] := rfl

@[simp]
theorem points_cons (c : Char) (cs : List Char) : points (c :: cs) = .char c :: points cs := rfl

@[simp]
theorem points_append (cs ds : List Char) : points (cs ++ ds) = points cs ++ points ds :=
  List.map_append

/-! ## One code point -/

/-- What a character is read back as. -/
def itemsOfChar (c : Char) : List StringItem :=
  if c ∈ ['\"', '\\', '\n', '\r', '\t', '\x0c', '\x08'] ∨ (0x20 ≤ c.toNat ∧ c.toNat ≤ 0x7E) then
    [.point c]
  else if c.toNat < 0x10000 then [.unit c.toNat]
  else
    [.unit (0xD800 + (c.toNat - 0x10000) / 0x400), .unit (0xDC00 + (c.toNat - 0x10000) % 0x400)]

/-- What a code point is read back as. -/
def itemsOfPoint : CodePoint → List StringItem
  | .char c => itemsOfChar c
  | .half n => [.unit (CodePoint.half n).toNat]

theorem hexValue?_digit {n : Nat} (h : n < 16) : hexValue? (.char (Hex.digit n)) = some n :=
  Hex.value?_digit n h

theorem itemsUntilQuote_escapedUnit {n : Nat} (hn : n < 0x10000) {rest : List CodePoint}
    (hr : rest ≠ []) :
    itemsUntilQuote (points (escapedUnit n) ++ rest) =
      (itemsUntilQuote rest).map fun r => (.unit n :: r.1, r.2) := by
  have h1 := hexValue?_digit (n := n / 16 / 16 / 16 % 16) (by omega)
  have h2 := hexValue?_digit (n := n / 16 / 16 % 16) (by omega)
  have h3 := hexValue?_digit (n := n / 16 % 16) (by omega)
  have h4 := hexValue?_digit (n := n % 16) (by omega)
  have hs : ((n / 16 / 16 / 16 % 16 * 16 + n / 16 / 16 % 16) * 16 + n / 16 % 16) * 16 + n % 16 = n := by
    omega
  have he : rest.isEmpty = false := by simpa using hr
  simp [escapedUnit, Hex.padded, itemsUntilQuote, unit?, h1, h2, h3, h4, hs, he]

/-- A one-letter escape. -/
theorem itemsUntilQuote_escape {e c : Char} (he : e ≠ 'u') (hc : simpleEscape? e = some c)
    (rest : List CodePoint) :
    itemsUntilQuote (.char '\\' :: .char e :: rest) =
      (itemsUntilQuote rest).map fun r => (.point c :: r.1, r.2) := by
  rw [itemsUntilQuote.eq_def]
  simp [he, hc]

/-- A code point that stands for itself. -/
theorem itemsUntilQuote_self {p : CodePoint} (hq : p ≠ '\"') (hb : p ≠ '\\') (hn : 0x20 ≤ p.toNat)
    (rest : List CodePoint) :
    itemsUntilQuote (p :: rest) = (itemsUntilQuote rest).map fun r => (.point p :: r.1, r.2) := by
  rw [itemsUntilQuote.eq_def]
  simp only
  rw [if_neg hq, if_neg hb, if_neg (by omega)]

theorem itemsUntilQuote_writtenChar (c : Char) {rest : List CodePoint} (hr : rest ≠ []) :
    itemsUntilQuote (points (writtenChar c) ++ rest) =
      (itemsUntilQuote rest).map fun r => (itemsOfChar c ++ r.1, r.2) := by
  unfold writtenChar
  split
  · subst_vars; exact itemsUntilQuote_escape (by decide) rfl rest
  split
  · subst_vars; exact itemsUntilQuote_escape (by decide) rfl rest
  split
  · subst_vars; exact itemsUntilQuote_escape (by decide) rfl rest
  split
  · subst_vars; exact itemsUntilQuote_escape (by decide) rfl rest
  split
  · subst_vars; exact itemsUntilQuote_escape (by decide) rfl rest
  split
  · subst_vars; exact itemsUntilQuote_escape (by decide) rfl rest
  split
  · subst_vars; exact itemsUntilQuote_escape (by decide) rfl rest
  rename_i h1 h2 h3 h4 h5 h6 h7
  split
  · rename_i h
    rw [itemsOfChar, if_pos (Or.inr h)]
    exact itemsUntilQuote_self (p := .char c) (by simpa using h1) (by simpa using h2) h.1 rest
  rename_i h8
  have hout : ¬ (c ∈ ['\"', '\\', '\n', '\r', '\t', '\x0c', '\x08'] ∨
      (0x20 ≤ c.toNat ∧ c.toNat ≤ 0x7E)) := by
    simp only [List.mem_cons, List.not_mem_nil, or_false]
    rintro (h | h)
    · rcases h with h | h | h | h | h | h | h <;> contradiction
    · exact h8 h
  split
  · rename_i h
    rw [itemsUntilQuote_escapedUnit h hr, itemsOfChar, if_neg hout, if_pos h]
    rfl
  · rename_i h
    have hc := Text.char_not_half c
    rw [points_append, List.append_assoc,
      itemsUntilQuote_escapedUnit (by omega) (by simp [escapedUnit]),
      itemsUntilQuote_escapedUnit (by omega) hr, itemsOfChar, if_neg hout, if_neg h]
    cases itemsUntilQuote rest <;> rfl

theorem itemsUntilQuote_writtenPoint (p : CodePoint) {rest : List CodePoint} (hr : rest ≠ []) :
    itemsUntilQuote (points (writtenPoint p) ++ rest) =
      (itemsUntilQuote rest).map fun r => (itemsOfPoint p ++ r.1, r.2) := by
  cases p with
  | char c => exact itemsUntilQuote_writtenChar c hr
  | half n => exact itemsUntilQuote_escapedUnit (by simp only [CodePoint.toNat]; omega) hr

/-! ## Items joined -/

theorem joinItems_point (p : CodePoint) (is : List StringItem) :
    joinItems (.point p :: is) = p :: joinItems is := by
  cases is <;> simp [joinItems]

theorem joinItems_unit {n : Nat} {is : List StringItem}
    (h : ∀ m, is.head? = some (.unit m) → (isHigh n && isLow m) = false) :
    joinItems (.unit n :: is) = .ofNat n :: joinItems is := by
  match is with
  | [] => simp [joinItems]
  | .point p :: is => simp [joinItems]
  | .unit m :: is => simp [joinItems, h m rfl]

/-- A character is joined to nothing, whatever follows. -/
theorem joinItems_itemsOfChar (c : Char) (is : List StringItem) :
    joinItems (itemsOfChar c ++ is) = .char c :: joinItems is := by
  have hc := Text.char_not_half c
  unfold itemsOfChar
  split
  · exact joinItems_point _ _
  split
  · rw [List.singleton_append, joinItems_unit (by simp [Text.isHigh_char])]
    exact congrArg (· :: joinItems is) (CodePoint.ofNat_toNat (.char c))
  · rename_i h
    have hh : isHigh (0xD800 + (c.toNat - 0x10000) / 0x400) = true := by
      simp only [isHigh, Bool.and_eq_true, decide_eq_true_eq]
      omega
    have hl : isLow (0xDC00 + (c.toNat - 0x10000) % 0x400) = true := by
      simp only [isLow, Bool.and_eq_true, decide_eq_true_eq]
      omega
    have hn : Text.Units.joinedNumber (0xD800 + (c.toNat - 0x10000) / 0x400)
        (0xDC00 + (c.toNat - 0x10000) % 0x400) = c.toNat := by
      unfold Text.Units.joinedNumber
      omega
    simp [joinItems, hh, hl, joined, hn, Char.ofNat_toNat]

/-- Only a low half begins with a low unit. -/
theorem isLow_of_head {p : CodePoint} {m : Nat} {is : List StringItem}
    (h : (itemsOfPoint p ++ is).head? = some (.unit m)) (hm : isLow m = true) :
    isLow p.toNat = true := by
  cases p with
  | half n =>
    simp only [itemsOfPoint, List.singleton_append, List.head?_cons, Option.some.injEq,
      StringItem.unit.injEq] at h
    rwa [h]
  | char c =>
    have hc := Text.char_not_half c
    simp only [itemsOfPoint, itemsOfChar] at h
    split at h
    · simp at h
    split at h
    · simp only [List.singleton_append, List.head?_cons, Option.some.injEq,
        StringItem.unit.injEq] at h
      rwa [CodePoint.toNat, h]
    · simp only [List.cons_append, List.head?_cons, Option.some.injEq, StringItem.unit.injEq] at h
      simp only [isLow, Bool.and_eq_true, decide_eq_true_eq] at hm
      omega

theorem joinItems_itemsOfPoint (ps : List CodePoint) :
    joinItems (ps.flatMap itemsOfPoint) = Text.joinHalves ps := by
  fun_induction Text.joinHalves ps with
  | case1 => rfl
  | case2 p =>
    cases p with
    | char c => simpa [itemsOfPoint, joinItems] using joinItems_itemsOfChar c []
    | half n => simp [itemsOfPoint, joinItems, CodePoint.ofNat_toNat]
  | case3 p q rest h ih =>
    simp only [Bool.and_eq_true] at h
    cases p with
    | char c => simp [CodePoint.toNat, Text.isHigh_char] at h
    | half m =>
      cases q with
      | char c => simp [CodePoint.toNat, Text.isLow_char] at h
      | half n => simp [itemsOfPoint, joinItems, h, ih]
  | case4 p q rest h ih =>
    cases p with
    | char c => rw [List.flatMap_cons, itemsOfPoint, joinItems_itemsOfChar, ih]
    | half n =>
      rw [List.flatMap_cons, itemsOfPoint, List.singleton_append, joinItems_unit, ih,
        CodePoint.ofNat_toNat]
      intro m hm
      -- the next unit is low only if the next code point is
      cases hl : isLow m with
      | false => simp
      | true =>
        rw [List.flatMap_cons] at hm
        have hq := isLow_of_head hm hl
        simpa [hq] using h

/-! ## A text between quotes -/

theorem itemsUntilQuote_points (ps rest : List CodePoint) :
    itemsUntilQuote (points (ps.flatMap writtenPoint) ++ .char '\"' :: rest) =
      .ok (ps.flatMap itemsOfPoint, rest) := by
  induction ps with
  | nil =>
    rw [itemsUntilQuote.eq_def]
    simp
  | cons p ps ih =>
    rw [List.flatMap_cons, points_append, List.append_assoc,
      itemsUntilQuote_writtenPoint p (by simp), ih]
    rfl

/-- **A quoted text is read back, its pairs of halves joined.** -/
theorem readText_writtenText (t : Text) (rest : List CodePoint) :
    ∃ body, points (writtenText t) ++ rest = .char '\"' :: body ∧
      readText body = .ok (t.rejoined, rest) := by
  refine ⟨points (t.toList.flatMap writtenPoint) ++ .char '\"' :: rest, by simp [writtenText], ?_⟩
  rw [readText, itemsUntilQuote_points]
  simp only [joinItems_itemsOfPoint]
  rfl

end Json

end CrossVenue
