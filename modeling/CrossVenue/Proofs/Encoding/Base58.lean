import CrossVenue.Encoding.Base58
import CrossVenue.Proofs.Computation
import Mathlib.Data.List.Induction
import Mathlib.Data.List.TakeWhile

/-!
# One spelling for every byte string

A numeral in base fifty-eight without leading zeros is determined by its number, and so is a byte string
without leading zeros.  Leading zeros are written digit by byte.  So characters that are read at all are
the ones that would be written, and only blanks at the end, which reading drops, are not determined.

* `numeral_numeralValue`, `bigEndian_minimalBytes` : digits and bytes of a number;
* `encodeChars_of_decodeChars`, `decode_encode` : what is read is what would be written, and what is
  written is read back;
* `trimmedEnd_of_decode` : a text is the written form of its bytes, up to blanks at its end.
-/

set_option autoImplicit false

namespace CrossVenue

/-- The text without blanks at its end. -/
def Text.trimmedEnd (t : Text) : Text := ⟨Text.trimEnd CodePoint.isBlank t.toList⟩

namespace Base58

/-! ## Digits of a number -/

theorem digit_of_value? {c : Char} {d : Nat} (h : value? c = some d) : d < 58 ∧ digit d = c := by
  unfold value? at h
  simp only at h
  split at h
  · rename_i hlt
    cases h
    refine ⟨hlt, ?_⟩
    rw [digit, List.getD_eq_getElem?_getD, List.getElem?_eq_getElem hlt, Option.getD_some]
    exact List.getElem_idxOf hlt
  · cases h

theorem numeral_eq_nil_iff {n : Nat} : numeral n = [] ↔ n = 0 := by
  rw [numeral]
  split
  · rename_i h
    exact iff_of_true rfl h
  · rename_i h
    exact iff_of_false (by simp) h

/-- The last digit of a number is what is left of it. -/
theorem numeral_step {n d : Nat} (hd : d < 58) (hn : 58 * n + d ≠ 0) :
    numeral (58 * n + d) = numeral n ++ [d] := by
  rw [numeral, if_neg hn, show (58 * n + d) / 58 = n by omega, show (58 * n + d) % 58 = d by omega]

/-- **Digits are those of their number**, unless they begin with zero. -/
theorem numeral_numeralValue {ds : List Nat} (hlt : ∀ d ∈ ds, d < 58) (hhead : ds.head? ≠ some 0) :
    numeral (numeralValue ds) = ds := by
  induction ds using List.reverseRecOn with
  | nil => rw [numeralValue, List.foldl_nil, numeral_eq_nil_iff]
  | append_singleton ds d ih =>
    have hd : d < 58 := hlt d (by simp)
    rw [numeralValue_append]
    cases ds with
    | nil =>
      have hne : d ≠ 0 := by simpa using hhead
      rw [numeral_step hd (by simpa [numeralValue] using hne), numeralValue, List.foldl_nil,
        numeral_eq_nil_iff.2 rfl]
    | cons e ds =>
      have hprefix : numeral (numeralValue (e :: ds)) = e :: ds :=
        ih (fun x hx => hlt x (List.mem_append_left _ hx)) (by simpa using hhead)
      have hne : numeralValue (e :: ds) ≠ 0 := by
        intro h0
        rw [numeral_eq_nil_iff.2 h0] at hprefix
        cases hprefix
      rw [numeral_step hd (by omega), hprefix]

/-- Digits that are read are the digits of the values. -/
theorem digitValues_eq_ok {cs : List Char} {ds : List Nat} (h : digitValues cs = .ok ds) :
    ds.map digit = cs ∧ ∀ d ∈ ds, d < 58 := by
  induction cs generalizing ds with
  | nil =>
    cases h
    exact ⟨rfl, by simp⟩
  | cons c cs ih =>
    simp only [digitValues] at h
    split at h
    · rename_i d hd
      obtain ⟨hlt, hc⟩ := digit_of_value? hd
      cases hrest : digitValues cs with
      | error e =>
        rw [hrest] at h
        cases h
      | ok rest =>
        rw [hrest] at h
        cases h
        obtain ⟨hmap, hall⟩ := ih hrest
        rw [List.map_cons, hc, hmap, List.forall_mem_cons]
        exact ⟨rfl, hlt, hall⟩
    · cases h

/-! ## Bytes of a number -/

theorem bigEndian_append (bs : Bytes) (b : UInt8) :
    Bytes.bigEndian (bs ++ [b]) = b.toNat + 256 * Bytes.bigEndian bs := by
  rw [Bytes.bigEndian, List.reverse_append, List.reverse_singleton, List.singleton_append,
    Bytes.littleEndian, Bytes.bigEndian]

theorem littleEndian_append_zeros (bs : Bytes) (n : Nat) :
    Bytes.littleEndian (bs ++ List.replicate n 0) = Bytes.littleEndian bs := by
  induction bs with
  | nil =>
    induction n with
    | zero => rfl
    | succ n ih =>
      rw [List.nil_append] at ih
      rw [List.nil_append, List.replicate_succ]
      show (0 : UInt8).toNat + 256 * Bytes.littleEndian (List.replicate n 0) = 0
      rw [ih]
      rfl
  | cons b bs ih => rw [List.cons_append, Bytes.littleEndian, ih, Bytes.littleEndian]

/-- Leading zeros do not count. -/
theorem bigEndian_zeros_append (n : Nat) (bs : Bytes) :
    Bytes.bigEndian (List.replicate n 0 ++ bs) = Bytes.bigEndian bs := by
  rw [Bytes.bigEndian, List.reverse_append, List.reverse_replicate, littleEndian_append_zeros,
    Bytes.bigEndian]

theorem bigEndian_minimalBytes (n : Nat) : Bytes.bigEndian (minimalBytes n) = n := by
  induction n using Nat.strongRecOn with
  | ind n ih =>
    rw [minimalBytes]
    split
    · rename_i h
      exact h.symm
    · rename_i h
      have hbyte : (UInt8.ofNat (n % 256)).toNat = n % 256 := by simp
      rw [bigEndian_append, ih (n / 256) (by omega), hbyte]
      omega

theorem head?_minimalBytes_ne (n : Nat) : (minimalBytes n).head? ≠ some 0 := by
  induction n using Nat.strongRecOn with
  | ind n ih =>
    rw [minimalBytes]
    split
    · simp
    · rename_i h
      have hrest := ih (n / 256) (by omega)
      cases hm : minimalBytes (n / 256) with
      | nil =>
        -- the number has one byte, and that is not zero
        have hsmall : n / 256 = 0 := by
          rw [← bigEndian_minimalBytes (n / 256), hm]
          rfl
        intro heq
        rw [List.nil_append, List.head?_cons, Option.some.injEq] at heq
        have hnat := congrArg UInt8.toNat heq
        simp at hnat
        omega
      | cons b bs =>
        rw [hm] at hrest
        simpa using hrest

theorem takeWhile_eq_nil {α : Type} [DecidableEq α] {a : α} {xs : List α} (h : xs.head? ≠ some a) :
    xs.takeWhile (· = a) = [] := by
  cases xs with
  | nil => rfl
  | cons x xs =>
    rw [List.head?_cons, ne_eq, Option.some.injEq] at h
    rw [List.takeWhile_cons, if_neg (by simpa using h)]

/-- What is put in front of a list that begins otherwise is all that stands there. -/
theorem takeWhile_replicate_append {α : Type} [DecidableEq α] {a : α} {xs : List α}
    (h : xs.head? ≠ some a) (k : Nat) :
    (List.replicate k a ++ xs).takeWhile (· = a) = List.replicate k a := by
  rw [List.takeWhile_append_of_pos (by simp), takeWhile_eq_nil h, List.append_nil]

theorem dropWhile_replicate_append {α : Type} [DecidableEq α] {a : α} {xs : List α}
    (h : xs.head? ≠ some a) (k : Nat) :
    (List.replicate k a ++ xs).dropWhile (· = a) = xs := by
  have hsplit := List.takeWhile_append_dropWhile (p := (· = a)) (l := List.replicate k a ++ xs)
  rw [takeWhile_replicate_append h] at hsplit
  exact List.append_cancel_left hsplit

/-- The zeros in front of a number's bytes are those that were put there. -/
theorem takeWhile_zeros_append (k n : Nat) :
    (List.replicate k 0 ++ minimalBytes n).takeWhile (· = 0) = List.replicate k 0 :=
  takeWhile_replicate_append (head?_minimalBytes_ne n) k

/-! ## What is read is what would be written -/

/-- Digits behind the leading ones do not begin with zero. -/
theorem head?_ne_of_map_digit {ds : List Nat} {cs : List Char}
    (h : ds.map digit = cs.dropWhile (· = '1')) : ds.head? ≠ some 0 := by
  intro h0
  have hfirst : (cs.dropWhile (· = '1')).head? = some '1' := by
    rw [← h, List.head?_map, h0]
    rfl
  have hnot := List.head?_dropWhile_not (· = '1') cs
  rw [hfirst] at hnot
  simp at hnot

theorem takeWhile_ones (cs : List Char) :
    cs.takeWhile (· = '1') = List.replicate (cs.takeWhile (· = '1')).length '1' := by
  refine List.eq_replicate_of_mem fun c hc => ?_
  simpa using List.mem_takeWhile_imp hc

/-- **Characters that are read are the ones that would be written.** -/
theorem encodeChars_of_decodeChars {cs : List Char} {bs : Bytes} (h : decodeChars cs = .ok bs) :
    encodeChars bs = cs := by
  obtain ⟨ds, hds, rfl⟩ := map_eq_ok_iff.1 h
  obtain ⟨hmap, hlt⟩ := digitValues_eq_ok hds
  have hdigits := numeral_numeralValue hlt (head?_ne_of_map_digit hmap)
  simp only [encodeChars, List.map_const']
  rw [takeWhile_zeros_append, bigEndian_zeros_append, bigEndian_minimalBytes, hdigits, hmap,
    List.length_replicate, ← takeWhile_ones, List.takeWhile_append_dropWhile]

theorem ascii?_eq_some {p : CodePoint} {c : Char} (h : ascii? p = some c) : p = .char c := by
  unfold ascii? at h
  rw [Option.filter_eq_some_iff] at h
  exact CodePoint.char?_eq_some_iff.1 h.1

theorem mapM_ascii? {ps : List CodePoint} {cs : List Char} (h : ps.mapM ascii? = some cs) :
    ps = cs.map CodePoint.char := by
  induction ps generalizing cs with
  | nil =>
    cases h
    rfl
  | cons p ps ih =>
    simp only [List.mapM_cons, bind, Option.bind_eq_some_iff, pure, Option.some.injEq] at h
    obtain ⟨c, hc, rest, hrest, rfl⟩ := h
    rw [List.map_cons, ascii?_eq_some hc, ih hrest]

/-- **A text is the written form of the bytes that it spells, up to blanks at its end.** -/
theorem trimmedEnd_of_decode {t : Text} {bs : Bytes} (h : decode t = .ok bs) :
    t.trimmedEnd = encode bs := by
  unfold decode at h
  split at h
  · rename_i cs hcs
    rw [Text.trimmedEnd, mapM_ascii? hcs, encode, encodeChars_of_decodeChars h, Text.ofString,
      Text.ofChars, String.toList_ofList]
  · cases h

/-! ## What is written is read back -/

theorem numeral_lt {n d : Nat} (h : d ∈ numeral n) : d < 58 := by
  induction n using Nat.strongRecOn with
  | ind n ih =>
    rw [numeral] at h
    split at h
    · cases h
    · rcases List.mem_append.1 h with h | h
      · exact ih (n / 58) (by omega) h
      · obtain rfl := List.mem_singleton.1 h
        omega

theorem head?_numeral_ne (n : Nat) : (numeral n).head? ≠ some 0 := by
  induction n using Nat.strongRecOn with
  | ind n ih =>
    rw [numeral]
    split
    · simp
    · rename_i h
      have hrest := ih (n / 58) (by omega)
      cases hm : numeral (n / 58) with
      | nil =>
        -- the number has one digit, and that is not zero
        have hsmall : n / 58 = 0 := numeral_eq_nil_iff.1 hm
        rw [List.nil_append, List.head?_cons, ne_eq, Option.some.injEq]
        omega
      | cons d ds =>
        rw [hm] at hrest
        simpa using hrest

theorem digitValues_map_digit {ds : List Nat} (h : ∀ d ∈ ds, d < 58) :
    digitValues (ds.map digit) = .ok ds := by
  induction ds with
  | nil => rfl
  | cons d ds ih =>
    rw [List.forall_mem_cons] at h
    simp only [List.map_cons, digitValues, value?_digit d h.1, ih h.2]
    rfl

/-- The bytes of a number are those that spell it, without the zeros in front. -/
theorem minimalBytes_bigEndian (bs : Bytes) :
    minimalBytes (Bytes.bigEndian bs) = bs.dropWhile (· = 0) := by
  induction bs using List.reverseRecOn with
  | nil => rw [show Bytes.bigEndian [] = 0 from rfl, minimalBytes, if_pos rfl, List.dropWhile_nil]
  | append_singleton bs b ih =>
    have hb := b.toNat_lt
    rw [bigEndian_append, minimalBytes]
    split
    · rename_i hzero
      -- all bytes are zeros
      have hbs : Bytes.bigEndian bs = 0 := by omega
      have hb0 : b = 0 := UInt8.toNat_inj.1 (by simp; omega)
      rw [hbs, minimalBytes, if_pos rfl] at ih
      rw [hb0, List.dropWhile_append, ← ih]
      rfl
    · rename_i hne
      rw [show (b.toNat + 256 * Bytes.bigEndian bs) / 256 = Bytes.bigEndian bs by omega,
        show (b.toNat + 256 * Bytes.bigEndian bs) % 256 = b.toNat by omega, ih, UInt8.ofNat_toNat,
        List.dropWhile_append]
      split
      · rename_i hempty
        have hnil := List.isEmpty_iff.1 hempty
        have hbs : Bytes.bigEndian bs = 0 := by
          rw [← bigEndian_minimalBytes (Bytes.bigEndian bs), ih, hnil]
          rfl
        have hb0 : b ≠ 0 := by
          rintro rfl
          simp [hbs] at hne
        rw [hnil, List.dropWhile_cons, if_neg (by simpa using hb0)]
        rfl
      · rfl

/-- The digits of a number begin with another one than zero. -/
theorem head?_map_digit_ne (n : Nat) : ((numeral n).map digit).head? ≠ some '1' := by
  have hne := head?_numeral_ne n
  rw [List.head?_map]
  cases hd : (numeral n).head? with
  | none => simp
  | some d =>
    have hlt : d < 58 := numeral_lt (List.mem_of_head? hd)
    rw [hd, ne_eq, Option.some.injEq] at hne
    have hdigit : ∀ d, d < 58 → d ≠ 0 → digit d ≠ '1' := by decide
    simpa using hdigit d hlt hne

/-- **Characters that are written are read back.** -/
theorem decodeChars_encodeChars (bs : Bytes) : decodeChars (encodeChars bs) = .ok bs := by
  have hne := head?_map_digit_ne bs.bigEndian
  have hdigits := digitValues_map_digit fun d hd => numeral_lt (n := bs.bigEndian) hd
  have hones : (bs.takeWhile (· = 0)).map (fun _ => '1') =
      List.replicate (bs.takeWhile (· = 0)).length '1' := List.map_const'
  have hzeros : List.replicate (bs.takeWhile (· = 0)).length 0 = bs.takeWhile (· = 0) := by
    refine (List.eq_replicate_of_mem fun b hb => ?_).symm
    simpa using List.mem_takeWhile_imp hb
  rw [decodeChars, encodeChars, hones, takeWhile_replicate_append hne,
    dropWhile_replicate_append hne, hdigits]
  show Except.ok ((List.replicate _ '1').map (fun _ => (0 : UInt8)) ++ _) = _
  rw [List.map_replicate, hzeros, numeralValue_numeral, minimalBytes_bigEndian,
    List.takeWhile_append_dropWhile]

theorem mem_alphabet_of_mem_encodeChars {bs : Bytes} {c : Char} (h : c ∈ encodeChars bs) :
    c ∈ alphabet := by
  have hdigit : ∀ d, d < 58 → digit d ∈ alphabet := by decide
  rcases List.mem_append.1 h with h | h
  · obtain ⟨_, -, rfl⟩ := List.mem_map.1 h
    decide
  · obtain ⟨d, hd, rfl⟩ := List.mem_map.1 h
    exact hdigit d (numeral_lt hd)

/-- **Bytes that are written are read back.** -/
theorem decode_encode (bs : Bytes) : decode (encode bs) = .ok bs := by
  have halphabet : alphabet.all (fun c =>
      !CodePoint.isBlank (.char c) && ascii? (.char c) == some c) = true := by decide +kernel
  have hchars : ∀ c ∈ encodeChars bs,
      CodePoint.isBlank (.char c) = false ∧ ascii? (.char c) = some c := by
    intro c hc
    have hc' := List.all_eq_true.1 halphabet c (mem_alphabet_of_mem_encodeChars hc)
    simpa using hc'
  have htrim : Text.trimEnd CodePoint.isBlank ((encodeChars bs).map CodePoint.char) =
      (encodeChars bs).map CodePoint.char := by
    rw [Text.trimEnd, List.dropWhile_eq_self_iff.2, List.reverse_reverse]
    intro hlength hblank
    obtain ⟨c, hc, heq⟩ := List.mem_map.1 (List.mem_reverse.1 (List.getElem_mem hlength))
    rw [← heq, (hchars c hc).1] at hblank
    cases hblank
  have hascii : ((encodeChars bs).map CodePoint.char).mapM ascii? = some (encodeChars bs) :=
    mapM_map_of_forall fun c hc => (hchars c hc).2
  rw [decode, encode, Text.toList_ofString, String.toList_ofList, htrim, hascii]
  exact decodeChars_encodeChars bs

end Base58

end CrossVenue
