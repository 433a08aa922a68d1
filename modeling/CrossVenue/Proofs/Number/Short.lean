import CrossVenue.Pool.Basic
import CrossVenue.Proofs.Text.Numeral
import CrossVenue.Schema.Reader
import Mathlib.Data.List.Induction
import Mathlib.Tactic.Linarith

/-!
# Integers that are short enough to be written

Whatever is computed from words is short enough, and so is every integer that comes from a numeral or from
a floating-point number.

* `isWritable_of_natAbs_le` : integers up to the largest product that quotes compute;
* `isWritable_of_readInteger?`, `isWritable_of_integer` : what is read from texts and values;
* `Binary64.isShort_ofDecimal` : floating-point numbers that are read have short whole parts.
-/

set_option autoImplicit false

namespace CrossVenue

/-- The largest product that is compared with a word: that of two words and a rate. -/
def Number.widest : Nat := maxWord * maxWord * feeScale

theorem Number.widest_lt_tooLong : Number.widest < Number.tooLong := by decide +kernel

theorem Number.maxWord_le_widest : maxWord ≤ Number.widest := by decide

theorem Number.isWritable_of_natAbs_le {n : Int} (h : n.natAbs ≤ widest) :
    isWritable n = true := by
  have := widest_lt_tooLong
  simp only [isWritable, decide_eq_true_eq]
  omega

theorem Number.isWritable_of_le {n : Nat} (h : n ≤ widest) : isWritable (n : Int) = true :=
  isWritable_of_natAbs_le (by omega)

theorem Number.isWritable_of_le_maxWord {n : Nat} (h : n ≤ maxWord) :
    isWritable (n : Int) = true := isWritable_of_le (h.trans maxWord_le_widest)

theorem Number.isWritable_of_le_maxWord64 {n : Nat} (h : n ≤ maxWord64) :
    isWritable (n : Int) = true := isWritable_of_le_maxWord (h.trans (by decide))

theorem Number.isWritable_toNat {n : Int} (h : isWritable n = true) :
    isWritable (n.toNat : Int) = true := by
  simp only [isWritable, decide_eq_true_eq] at h ⊢
  omega

/-! ## Numerals -/

/-- Powers in the form in which bounds are defined, so that no bound is computed. -/
theorem Number.pow_mono {base k most : Nat} (hb : 0 < base) (h : k ≤ most) :
    Nat.pow base k ≤ Nat.pow base most := Nat.pow_le_pow_right hb h

theorem Number.pow_pos {base : Nat} (hb : 0 < base) (k : Nat) : 0 < Nat.pow base k := Nat.pow_pos hb

theorem Number.pow_le_tooLong {k : Nat} (h : k ≤ maxDigits) : 10 ^ k ≤ tooLong := by
  unfold tooLong
  generalize maxDigits = most at h ⊢
  exact pow_mono (by decide) h

namespace Text

/-- Digits spell a number that has no more of them. -/
theorem decimalValue_lt {ds : List Nat} (h : ∀ d ∈ ds, d < 10) : decimalValue ds < 10 ^ ds.length := by
  induction ds using List.reverseRecOn with
  | nil => simp [decimalValue]
  | append_singleton ds d ih =>
    have hds := ih fun e he => h e (by simp [he])
    have hd := h d (by simp)
    have hstep : decimalValue (ds ++ [d]) = 10 * decimalValue ds + d := by simp [decimalValue]
    rw [hstep, List.length_append, List.length_singleton, Nat.pow_succ]
    omega

theorem digitsValue_lt {cs : List Char} (h : ∀ c ∈ cs, c.isDigit = true) :
    digitsValue cs < 10 ^ cs.length := by
  have hdigits : ∀ d ∈ cs.map (fun c => c.toNat - 48), d < 10 := by
    intro d hd
    obtain ⟨c, hc, rfl⟩ := List.mem_map.1 hd
    have := toNat_of_isDigit (h c hc)
    omega
  have hlt := decimalValue_lt hdigits
  rwa [decimalValue_map, List.length_map] at hlt

theorem isWritable_withSign {n : Nat} (negative : Bool) (h : n < Number.tooLong) :
    Number.isWritable (withSign negative n) = true := by
  rw [Number.isWritable_iff]
  unfold withSign
  split <;> omega

theorem grouped?_lt {cs : List Char} {ds : List Nat} (h : grouped? digitValue? cs = some ds) :
    ∀ d ∈ ds, d < 10 := by
  fun_induction grouped? digitValue? cs generalizing ds with
  | case2 c =>
    obtain ⟨v, hv, rfl⟩ := Option.map_eq_some_iff.1 h
    simpa using digitValue?_lt hv
  | case4 _ _ v hv ih =>
    obtain ⟨t, ht, rfl⟩ := Option.map_eq_some_iff.1 h
    exact List.forall_mem_cons.2 ⟨digitValue?_lt hv, ih ht⟩
  | case5 _ _ _ v hv _ ih =>
    obtain ⟨t, ht, rfl⟩ := Option.map_eq_some_iff.1 h
    exact List.forall_mem_cons.2 ⟨digitValue?_lt hv, ih ht⟩
  | _ => cases h

/-- An integer that a text spells has few enough digits to be written. -/
theorem isWritable_of_readInteger? {t : Text} {n : Int} (h : readInteger? t = some n) :
    Number.isWritable n = true := by
  obtain ⟨cs, -, hcs⟩ := Option.bind_eq_some_iff.1 h
  simp only [readIntegerChars?] at hcs
  split at hcs
  · rename_i ds hds
    split at hcs
    · rename_i hlength
      cases hcs
      exact isWritable_withSign _
        (Nat.lt_of_lt_of_le (decimalValue_lt (grouped?_lt hds)) (Number.pow_le_tooLong hlength))
    · cases hcs
  · cases hcs

end Text

/-! ## Values that are read as integers -/

namespace Schema

theorem plainMagnitude_lt {cs : List Char} {n : Nat} (h : plainMagnitude cs = some n) :
    n < Number.tooLong := by
  have hzero : 0 < Number.tooLong := by decide +kernel
  unfold plainMagnitude at h
  split at h
  · cases h
    exact hzero
  · split at h
    · rename_i hcs
      cases h
      simp only [Bool.and_eq_true, decide_eq_true_eq, List.all_eq_true] at hcs
      exact Nat.lt_of_lt_of_le (Text.digitsValue_lt hcs.1.2) (Number.pow_le_tooLong hcs.2)
    · cases h

theorem isWritable_of_plainNumeral {cs : List Char} {n : Int} (h : plainNumeral cs = some n) :
    Number.isWritable n = true := by
  have hsigned : ∃ (negative : Bool) (m : Nat), m < Number.tooLong ∧
      n = Text.withSign negative m := by
    unfold plainNumeral at h
    split at h <;> simp only [bind, pure, Option.map_eq_some_iff, Option.bind_eq_some_iff,
      Option.some.injEq] at h
    · obtain ⟨_, ⟨m, hm, rfl⟩, rfl⟩ := h
      exact ⟨true, m, plainMagnitude_lt hm, rfl⟩
    · obtain ⟨_, ⟨m, hm, rfl⟩, rfl⟩ := h
      exact ⟨false, m, plainMagnitude_lt hm, rfl⟩
  obtain ⟨negative, m, hm, rfl⟩ := hsigned
  exact Text.isWritable_withSign negative hm

theorem isWritable_of_integerText {cs : List Char} {n : Int} (h : integerText cs = .accepted n) :
    Number.isWritable n = true := by
  unfold integerText readNumeral at h
  split at h
  · rename_i m hm
    cases h
    split at hm
    · cases hm
    · split at hm
      · rename_i htidy
        cases hm
        obtain ⟨plain, -, hplain⟩ := Option.bind_eq_some_iff.1 htidy
        exact isWritable_of_plainNumeral hplain
      · cases hm
  · cases h
  · cases h

theorem isWritable_of_fits64 {n : Int} (h : fits64 n = true) : Number.isWritable n = true := by
  have hwide : 0x8000000000000000 ≤ Number.widest := by decide
  simp only [fits64, Bool.and_eq_true, decide_eq_true_eq] at h
  exact Number.isWritable_of_natAbs_le (by omega)

/-- **An integer that a value is read as can be written**, if the value is none itself. -/
theorem isWritable_of_integer {v : Json} (hv : ∀ n, v = .int n → Number.isWritable n = true)
    {n : Int} (h : integer v = .accepted n) : Number.isWritable n = true := by
  unfold integer at h
  split at h
  · cases h
    exact hv n rfl
  · cases h
    split <;> decide +kernel
  · rename_i x
    unfold wholeNumber at h
    split at h
    · cases h
    · split at h
      · cases h
      · split at h
        · rename_i hfits
          cases h
          exact isWritable_of_fits64 (Bool.and_eq_true _ _ ▸ hfits).1
        · cases h
  · unfold plainText at h
    split at h
    · exact isWritable_of_integerText h
    · cases h
  · cases h

end Schema

/-! ## Floating-point numbers -/

namespace Binary64

/-- Can the whole part of a number be written, if it has one? -/
def isShort (x : Binary64) : Bool := x.truncate?.all Number.isWritable

theorem roundedQuotient_le (num den : Nat) : roundedQuotient num den ≤ num / den + 1 := by
  unfold roundedQuotient
  dsimp only
  split <;> omega

/-- The distance of neighbours among the largest numbers. -/
def widestStep : Nat := Nat.pow 2 maxExponent.toNat

/-- How many of the smallest positive number make up one. -/
def finestUnits : Nat := Nat.pow 2 (-minExponent).toNat

/-- Decimals of more digits before the point are too large for a mantissa. -/
def limitDigits : Nat := 310

/-- The least decimal that is too large for a mantissa. -/
def decimalLimit : Nat := Nat.pow 10 limitDigits

theorem widestStep_pos : 0 < widestStep := by
  unfold widestStep
  exact Number.pow_pos (by decide) _

theorem finestUnits_pos : 0 < finestUnits := by
  unfold finestUnits
  exact Number.pow_pos (by decide) _

/-- What bounds the mantissa of a number below the limit. -/
def mantissaBound : Nat := decimalLimit * finestUnits + 1

theorem lt_mantissaBound {n : Nat} (h : n ≤ decimalLimit * finestUnits) : n < mantissaBound := by
  unfold mantissaBound
  omega

theorem isShort_finite (negative : Bool) {m : Nat} {e : Int} (hm : m ≤ mantissaBound)
    (he : e ≤ maxExponent) : (finite negative m e).isShort = true := by
  have hb : mantissaBound * widestStep < Number.tooLong := by decide +kernel
  have hstep : Nat.pow 2 e.toNat ≤ widestStep := by
    unfold widestStep
    exact Number.pow_mono (by decide) (Int.toNat_le_toNat he)
  have hle : (if 0 ≤ e then m * Nat.pow 2 e.toNat else m / Nat.pow 2 (-e).toNat) ≤
      mantissaBound * widestStep := by
    split
    · exact Nat.mul_le_mul hm hstep
    · exact (Nat.div_le_self _ _).trans (hm.trans (Nat.le_mul_of_pos_right _ widestStep_pos))
  simp only [isShort, truncate?, Option.all_some]
  exact Text.isWritable_withSign negative (Nat.lt_of_le_of_lt hle hb)

theorem scaledDown_div_lt {num den : Nat} {e : Int} (he : minExponent ≤ e)
    (h : num < decimalLimit * den) :
    (scaledDown num den e).1 / (scaledDown num den e).2 < mantissaBound := by
  have hden : 0 < den := Nat.pos_of_ne_zero (by rintro rfl; omega)
  unfold scaledDown
  split
  · refine lt_mantissaBound ?_
    calc num / (den * Nat.pow 2 e.toNat) ≤ num / den :=
          Nat.div_le_div_left (Nat.le_mul_of_pos_right _ (Nat.pow_pos (by decide))) hden
      _ ≤ decimalLimit := ((Nat.div_lt_iff_lt_mul hden).2 h).le
      _ ≤ decimalLimit * finestUnits := Nat.le_mul_of_pos_right _ finestUnits_pos
  · have hunits : Nat.pow 2 (-e).toNat ≤ finestUnits := by
      unfold finestUnits
      exact Number.pow_mono (by decide) (Int.toNat_le_toNat (Int.neg_le_neg he))
    refine lt_mantissaBound ((Nat.div_lt_iff_lt_mul hden).2 ?_).le
    calc num * Nat.pow 2 (-e).toNat ≤ num * finestUnits :=
          Nat.mul_le_mul_left _ hunits
      _ < decimalLimit * den * finestUnits := Nat.mul_lt_mul_of_pos_right h finestUnits_pos
      _ = decimalLimit * finestUnits * den := Nat.mul_right_comm _ _ _

theorem isShort_ofRatio (negative : Bool) {num den : Nat} (h : num < decimalLimit * den) :
    (ofRatio negative num den).isShort = true := by
  unfold ofRatio
  simp only
  generalize hE : max _ minExponent = e
  have hq := roundedQuotient_le (scaledDown num den e).1 (scaledDown num den e).2
  have hlt := scaledDown_div_lt (e := e) (by omega) h
  have hpair : ∀ p : Nat × Int, p.1 ≤ mantissaBound →
      (if p.2 > maxExponent then infinite negative else finite negative p.1 p.2).isShort = true := by
    intro p hp
    split
    · rfl
    · exact isShort_finite negative hp (by omega)
  refine hpair _ ?_
  split
  · simp only
    omega
  · simp only
    omega

theorem lt_pow_decimalLength (n : Nat) : n < 10 ^ decimalLength n := by
  induction n using Nat.strongRecOn with
  | ind n ih =>
    rw [decimalLength]
    split
    · subst_vars
      decide
    · have := ih (n / 10) (by omega)
      rw [Nat.pow_succ]
      omega

theorem pow_le_decimalLimit {k : Nat} (h : k ≤ limitDigits) : 10 ^ k ≤ decimalLimit := by
  unfold decimalLimit
  generalize limitDigits = most at h ⊢
  exact Number.pow_mono (by decide) h

/-- **A number that is read from digits has a whole part that can be written**, if it has one: what is too
large for a mantissa is infinite. -/
theorem isShort_ofDecimal (negative : Bool) (digits : Nat) (exponent : Int) :
    (ofDecimal negative digits exponent).isShort = true := by
  have hdigits := lt_pow_decimalLength digits
  unfold ofDecimal
  simp only
  split
  · exact isShort_finite negative (Nat.zero_le _) (by decide)
  split
  · rfl
  split
  · obtain ⟨k, rfl⟩ : ∃ k : Nat, exponent = k := ⟨exponent.toNat, by omega⟩
    have hlength : decimalLength digits + k ≤ limitDigits := by
      unfold limitDigits
      omega
    refine isShort_ofRatio negative ?_
    rw [Nat.mul_one, Int.toNat_natCast]
    calc digits * Nat.pow 10 k < 10 ^ decimalLength digits * 10 ^ k :=
          Nat.mul_lt_mul_of_pos_right hdigits (Nat.pow_pos (by decide))
      _ = 10 ^ (decimalLength digits + k) := (Nat.pow_add 10 _ _).symm
      _ ≤ decimalLimit := pow_le_decimalLimit hlength
  · obtain ⟨k, rfl⟩ : ∃ k : Nat, exponent = -k := ⟨(-exponent).toNat, by omega⟩
    have hlength : decimalLength digits ≤ limitDigits + k := by
      unfold limitDigits
      omega
    refine isShort_ofRatio negative ?_
    rw [Int.neg_neg, Int.toNat_natCast]
    calc digits < 10 ^ decimalLength digits := hdigits
      _ ≤ 10 ^ (limitDigits + k) := Nat.pow_le_pow_right (by decide) hlength
      _ = 10 ^ limitDigits * 10 ^ k := Nat.pow_add 10 _ _
      _ ≤ decimalLimit * 10 ^ k := Nat.mul_le_mul_right _ (pow_le_decimalLimit (Nat.le_refl _))

end Binary64

end CrossVenue
