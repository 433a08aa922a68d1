import CrossVenue.Text.Numeral

/-!
# Written numbers

The decimal digits of a number spell it, in every reader of numbers.

* `digitsValue_toDigits` : the value of the digits of `n` is `n`;
* `head_ne_zero` : the digits of a positive number do not begin with zero;
* `length_le_of_lt_tooLong` : a number that can be written has few enough digits to be read;
* `readInteger?_ofDigits`, `readInteger?_toString` : digits are read, and a written number is read back.
-/

set_option autoImplicit false

namespace CrossVenue

theorem Number.isWritable_natCast {n : Nat} (h : n < tooLong) : isWritable (n : Int) = true := by
  simp only [isWritable, decide_eq_true_eq]
  omega

namespace Text

/-! ## Digits -/

theorem isDigit_of_mem {n : Nat} {c : Char} (h : c ∈ Nat.toDigits 10 n) : c.isDigit = true :=
  Nat.isDigit_of_mem_toDigits (by decide) (by decide) h

theorem digitsValue_toDigits (n : Nat) : digitsValue (Nat.toDigits 10 n) = n :=
  Nat.ofDigitChars_ten_toDigits

theorem head_ne_zero {n : Nat} (h : 0 < n) : (Nat.toDigits 10 n).head? ≠ some '0' := by
  rw [Nat.toDigits_eq_if (by decide)]
  split
  · simp only [List.head?_cons, ne_eq, Option.some.injEq, Nat.digitChar_eq_zero]
    omega
  · rename_i hn
    have ih := head_ne_zero (n := n / 10) (by omega)
    cases hd : Nat.toDigits 10 (n / 10) with
    | nil => exact absurd hd Nat.toDigits_ne_nil
    | cons c cs => rwa [hd] at ih
termination_by n
decreasing_by omega

theorem length_toDigits_le {n k : Nat} (hk : 0 < k) (h : n < Nat.pow 10 k) :
    (Nat.toDigits 10 n).length ≤ k :=
  (Nat.length_toDigits_le_iff (by decide) hk).2 h

theorem length_le_of_lt_tooLong {n : Nat} (h : n < Number.tooLong) :
    (Nat.toDigits 10 n).length ≤ Number.maxDigits := by
  unfold Number.tooLong at h
  exact length_toDigits_le (by decide) h

/-! ## What is no digit -/

/-- An ASCII digit is between 48 and 57. -/
theorem toNat_of_isDigit {c : Char} (h : c.isDigit = true) : 48 ≤ c.toNat ∧ c.toNat ≤ 57 := by
  simp only [Char.isDigit, Bool.and_eq_true, decide_eq_true_eq] at h
  exact h

theorem isWhiteSpace_of_isDigit {c : Char} (h : c.isDigit = true) : isWhiteSpace c = false := by
  obtain ⟨h1, h2⟩ := toNat_of_isDigit h
  simp only [isWhiteSpace, Bool.or_eq_false_iff, Bool.and_eq_false_iff, decide_eq_false_iff_not,
    beq_eq_false_iff_ne]
  omega

theorem digitValue?_of_isDigit {c : Char} (h : c.isDigit = true) :
    digitValue? c = some (c.toNat - 48) := by
  obtain ⟨h1, h2⟩ := toNat_of_isDigit h
  have hz : (0x30 ≤ c.toNat && c.toNat < 0x30 + 10) = true := by
    simp only [Bool.and_eq_true, decide_eq_true_eq]
    omega
  simp only [digitValue?, digitZeros, List.find?_cons, hz]

/-! ## Reading -/

theorem trim_of_all {α : Type} {p : α → Bool} {xs : List α} (h : ∀ x ∈ xs, p x = false) :
    trim p xs = xs := by
  have hd : ∀ ys : List α, (∀ y ∈ ys, p y = false) → ys.dropWhile p = ys := by
    intro ys hy
    cases ys with
    | nil => rfl
    | cons y ys => simp [hy y]
  rw [trim, hd xs h, trimEnd, hd _ fun y hy => h y (List.mem_reverse.1 hy), List.reverse_reverse]

theorem splitSign_of_isDigit {cs : List Char} (h : ∀ c ∈ cs, c.isDigit = true) :
    splitSign cs = (false, cs) := by
  unfold splitSign
  split
  · exact absurd (h '-' (by simp)) (by decide)
  · exact absurd (h '+' (by simp)) (by decide)
  · rfl

theorem grouped?_of_isDigit {cs : List Char} (hne : cs ≠ []) (h : ∀ c ∈ cs, c.isDigit = true) :
    grouped? digitValue? cs = some (cs.map fun c => c.toNat - 48) := by
  fun_induction grouped? digitValue? cs with
  | case1 => exact absurd rfl hne
  | case2 c => simp [digitValue?_of_isDigit (h c (by simp))]
  | case3 c d cs hv => rw [digitValue?_of_isDigit (h c (by simp))] at hv; cases hv
  | case4 c cs v hv ih => exact absurd (h '_' (by simp)) (by decide)
  | case5 c d cs v hv hd ih =>
    rw [digitValue?_of_isDigit (h c (by simp))] at hv
    obtain rfl := Option.some.inj hv
    rw [ih (by simp) fun e he => h e (List.mem_cons_of_mem _ he)]
    rfl

theorem decimalValue_map (cs : List Char) :
    decimalValue (cs.map fun c => c.toNat - 48) = digitsValue cs := by
  simp [decimalValue, digitsValue, List.foldl_map]

/-- **ASCII digits are read as the number that they spell**, if there are any and not too many. -/
theorem readInteger?_ofDigits {cs : List Char} (hcs : ∀ c ∈ cs, c.isDigit = true) :
    readInteger? (ofChars cs) =
      if cs ≠ [] ∧ cs.length ≤ Number.maxDigits then some (digitsValue cs : Int) else none := by
  have htrim : trim isWhiteSpace cs = cs := trim_of_all fun c hc => isWhiteSpace_of_isDigit (hcs c hc)
  rw [readInteger?, chars?_ofChars]
  simp only [Option.bind_some, readIntegerChars?, htrim, splitSign_of_isDigit hcs]
  by_cases hne : cs = []
  · subst hne
    rfl
  · simp only [grouped?_of_isDigit hne hcs, List.length_map, decimalValue_map, ne_eq, hne, not_false_eq_true,
      true_and]
    rfl

/-- **A number that can be written is read back.** -/
theorem readInteger?_toString {n : Nat} (h : n < Number.tooLong) :
    readInteger? (toString n) = some (n : Int) := by
  rw [ofString, Nat.toString_eq_repr, Nat.toList_repr, readInteger?_ofDigits fun c hc => isDigit_of_mem hc,
    if_pos ⟨Nat.toDigits_ne_nil, length_le_of_lt_tooLong h⟩, digitsValue_toDigits]

end Text

end CrossVenue
