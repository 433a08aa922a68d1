import CrossVenue.Bytes

/-!
# Words read back

* `Bytes.littleEndian_of_lt`, `Bytes.bigEndian_of_lt` : a number that a word holds is read back from it;
* `Bytes.ofLittleEndian_littleEndian`, `Bytes.ofBigEndian_bigEndian` : bytes are the word of the number that
  they are read as;
* `Bytes.signed_emod`, `Bytes.emod_signed` : two's complement and its reading undo each other;
* `Bytes.slice_append_self`, `Bytes.slice_append_drop` : a piece by its place;
* `Bytes.slice_flatten` : a word is read at its place in a row of words.
-/

set_option autoImplicit false

namespace CrossVenue.Bytes

/-! ## Words and numbers -/

theorem littleEndian_of_lt {width n : Nat} (h : n < Nat.pow 256 width) :
    littleEndian (ofLittleEndian width n) = n :=
  (littleEndian_ofLittleEndian width n).trans (Nat.mod_eq_of_lt h)

theorem bigEndian_of_lt {width n : Nat} (h : n < Nat.pow 256 width) :
    bigEndian (ofBigEndian width n) = n :=
  (bigEndian_ofBigEndian width n).trans (Nat.mod_eq_of_lt h)

theorem littleEndian_lt (bs : Bytes) : littleEndian bs < Nat.pow 256 bs.length := by
  induction bs with
  | nil => decide
  | cons b bs ih =>
    have hb := b.toNat_lt
    rw [Nat.pow_eq] at ih
    rw [littleEndian, List.length_cons, Nat.pow_eq, Nat.pow_succ]
    omega

theorem bigEndian_lt (bs : Bytes) : bigEndian bs < Nat.pow 256 bs.length := by
  have h := littleEndian_lt bs.reverse
  rwa [List.length_reverse] at h

theorem ofLittleEndian_littleEndian (bs : Bytes) : ofLittleEndian bs.length (littleEndian bs) = bs := by
  induction bs with
  | nil => rfl
  | cons b bs ih =>
    have hb := b.toNat_lt
    have hlow : (b.toNat + 256 * littleEndian bs) % 256 = b.toNat := by omega
    have hhigh : (b.toNat + 256 * littleEndian bs) / 256 = littleEndian bs := by omega
    rw [littleEndian, List.length_cons, ofLittleEndian, hlow, hhigh, ih, UInt8.ofNat_toNat]

theorem ofBigEndian_bigEndian {bs : Bytes} {width : Nat} (h : bs.length = width) :
    ofBigEndian width (bigEndian bs) = bs := by
  rw [ofBigEndian, bigEndian, ← h, ← List.length_reverse, ofLittleEndian_littleEndian,
    List.reverse_reverse]

/-! ## Two's complement -/

/-- A number is read back from its two's complement. -/
theorem signed_emod {bits : Nat} {n : Int} (hleast : -(Nat.pow 2 bits : Int) ≤ 2 * n)
    (hless : 2 * n < Nat.pow 2 bits) : signed bits (n % (Nat.pow 2 bits : Int)).toNat = n := by
  unfold signed
  generalize Nat.pow 2 bits = size at *
  by_cases hn : 0 ≤ n
  · rw [Int.emod_eq_of_lt hn (by omega)]
    split <;> omega
  · have hmod : n % (size : Int) = n + size := by
      rw [← Int.add_emod_right, Int.emod_eq_of_lt (by omega) (by omega)]
    rw [hmod]
    split <;> omega

/-- Two's complement gives back the word that a number is read from. -/
theorem emod_signed {bits n : Nat} (h : n < Nat.pow 2 bits) :
    (signed bits n % (Nat.pow 2 bits : Int)).toNat = n := by
  unfold signed
  generalize Nat.pow 2 bits = size at *
  split
  · rw [Int.emod_eq_of_lt (by omega) (by omega), Int.toNat_natCast]
  · rw [Int.sub_emod_right, Int.emod_eq_of_lt (by omega) (by omega), Int.toNat_natCast]

theorem signed_bounds {bits n : Nat} (h : n < Nat.pow 2 bits) :
    -(Nat.pow 2 bits : Int) ≤ 2 * signed bits n ∧ 2 * signed bits n < Nat.pow 2 bits := by
  unfold signed
  generalize Nat.pow 2 bits = size at *
  split <;> omega

/-! ## Pieces -/

theorem slice_append_of_le {xs ys : Bytes} {i n : Nat} (h : i + n ≤ xs.length) :
    slice (xs ++ ys) i n = slice xs i n := by
  have hlength : n ≤ (xs.drop i).length := by
    rw [List.length_drop]
    omega
  rw [slice, List.drop_append_of_le_length (by omega), List.take_append_of_le_length hlength, slice]

theorem slice_append_self {xs w : Bytes} {i n : Nat} (hi : xs.length = i) (hn : w.length = n) :
    slice (xs ++ w) i n = w := by
  rw [slice, List.drop_left' hi, ← hn, List.take_length]

/-- A piece is followed by the rest. -/
theorem slice_append_drop (bs : Bytes) (i n : Nat) : slice bs i n ++ bs.drop (i + n) = bs.drop i := by
  rw [slice, ← List.drop_drop, List.take_append_drop]

theorem length_slice {bs : Bytes} {i n : Nat} (h : i + n ≤ bs.length) : (slice bs i n).length = n := by
  rw [slice, List.length_take, List.length_drop]
  omega

/-- A word is read at its place in a row of words, whatever stands before and behind the row. -/
theorem slice_flatten {words : List Bytes} {width : Nat} (hwords : ∀ w ∈ words, w.length = width)
    (before after : Bytes) {i : Nat} {w : Bytes} (hi : words[i]? = some w) :
    slice (before ++ words.flatten ++ after) (before.length + width * i) width = w := by
  induction words generalizing before i with
  | nil => cases hi
  | cons v vs ih =>
    have hv : v.length = width := hwords v List.mem_cons_self
    cases i with
    | zero =>
      cases hi
      have hend : before.length + width = (before ++ w).length := by rw [List.length_append, hv]
      rw [Nat.mul_zero, Nat.add_zero, List.flatten_cons, ← List.append_assoc, List.append_assoc _ _ after,
        slice_append_of_le (Nat.le_of_eq hend), slice_append_self rfl hv]
    | succ i =>
      -- the first word belongs to what stands before the others
      have hrest := ih (fun u hu => hwords u (List.mem_cons_of_mem v hu)) (before ++ v) hi
      rw [List.length_append, hv, List.append_assoc before] at hrest
      rw [Nat.mul_succ, Nat.add_comm (width * i), ← Nat.add_assoc]
      exact hrest

end CrossVenue.Bytes
