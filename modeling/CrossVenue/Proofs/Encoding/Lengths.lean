import CrossVenue.Encoding.Base64
import CrossVenue.Encoding.Unicode
import CrossVenue.Proofs.Encoding.Base58
import Mathlib.Algebra.Group.Nat.Defs

/-!
# Decoding makes nothing longer

* `Unicode.decode?_length` : a text has no more code points than its bytes;
* `Base64.decode?_length`, `Base58.decode_length` : bytes are no more than the digits that spell them.
-/

set_option autoImplicit false

namespace CrossVenue

/-! ## Text in bytes -/

namespace Unicode

theorem utf8Points?_length {bs : Bytes} {ps : List CodePoint} (h : utf8Points? bs = some ps) :
    ps.length ≤ bs.length := by
  fun_induction utf8Points? bs generalizing ps with
  | case1 =>
    cases h
    exact Nat.le_refl _
  | case2 _ _ _ ih =>
    obtain ⟨qs, hqs, rfl⟩ := Option.map_eq_some_iff.1 h
    exact Nat.succ_le_succ (ih hqs)
  | case4 _ _ _ _ _ _ ih =>
    obtain ⟨qs, hqs, rfl⟩ := Option.map_eq_some_iff.1 h
    have := ih hqs
    simp only [List.length_cons]
    omega
  | case6 _ _ _ _ _ _ _ _ ih =>
    obtain ⟨qs, hqs, rfl⟩ := Option.map_eq_some_iff.1 h
    have := ih hqs
    simp only [List.length_cons]
    omega
  | case8 _ _ _ _ _ _ _ _ _ _ ih =>
    obtain ⟨qs, hqs, rfl⟩ := Option.map_eq_some_iff.1 h
    have := ih hqs
    simp only [List.length_cons]
    omega
  | _ => cases h

theorem codePoints_length_le (ns : List Nat) : (Text.Units.codePoints ns).length ≤ ns.length := by
  fun_induction Text.Units.codePoints ns with
  | case3 _ _ _ _ ih =>
    simp only [List.length_cons]
    omega
  | case4 _ _ _ _ ih => exact Nat.succ_le_succ ih
  | _ => simp

theorem ofNumbers?_length {ns : List Nat} {ps : List CodePoint} (h : ofNumbers? ns = some ps) :
    ps.length = ns.length := by
  unfold ofNumbers? at h
  induction ns generalizing ps with
  | nil =>
    cases h
    rfl
  | cons n ns ih =>
    simp only [List.mapM_cons, bind, Option.bind_eq_some_iff, pure, Option.some.injEq] at h
    obtain ⟨p, -, qs, hqs, rfl⟩ := h
    exact congrArg Nat.succ (ih hqs)

theorem units?_length {bigEndian : Bool} {width : Nat} {bs : Bytes} {ns : List Nat}
    (h : units? bigEndian width bs = some ns) : ns.length ≤ bs.length := by
  unfold units? at h
  split at h
  · cases h
  · cases h
    rw [List.length_map, List.length_range]
    exact Nat.div_le_self _ _

/-- A text has no more code points than bytes. -/
theorem decode?_length {bs : Bytes} {t : Text} (h : decode? bs = some t) :
    t.length ≤ bs.length := by
  unfold decode? at h
  split at h
  · rename_i skipped _
    obtain ⟨ps, hps, rfl⟩ := Option.map_eq_some_iff.1 h
    have hlength := utf8Points?_length hps
    rw [List.length_drop] at hlength
    simp only [Text.length]
    omega
  · rename_i big skipped _
    obtain ⟨ns, hns, rfl⟩ := Option.map_eq_some_iff.1 h
    have hlength := units?_length hns
    have hpoints := codePoints_length_le ns
    rw [List.length_drop] at hlength
    simp only [Text.length]
    omega
  · rename_i big skipped _
    obtain ⟨ps, hps, rfl⟩ := Option.map_eq_some_iff.1 h
    obtain ⟨ns, hns, hall⟩ := Option.bind_eq_some_iff.1 hps
    have hlength := units?_length hns
    have hpoints := ofNumbers?_length hall
    rw [List.length_drop] at hlength
    simp only [Text.length]
    omega

end Unicode

/-! ## Bytes in text -/

theorem Text.length_ofChars (cs : List Char) : (Text.ofChars cs).length = cs.length :=
  List.length_map _

namespace Base64

theorem decodeGroups?_length {cs : List Char} {bs : Bytes} (h : decodeGroups? cs = some bs) :
    bs.length ≤ cs.length := by
  fun_induction decodeGroups? cs generalizing bs with
  | case1 =>
    cases h
    exact Nat.le_refl _
  | case2 a b c d rest x y z w _ _ _ _ ih =>
    obtain ⟨more, hmore, rfl⟩ := Option.map_eq_some_iff.1 h
    have := ih hmore
    simp only [List.length_cons]
    omega
  -- the last group, padded or not, and padding alone
  | case3 | case5 | case7 | case9 =>
    cases h
    simp
  | case4 | case6 | case8 | case10 => cases h

theorem decode?_length {t : Text} {bs : Bytes} (h : decode? t = some bs) :
    bs.length ≤ t.length := by
  obtain ⟨cs, hcs, hbs⟩ := Option.bind_eq_some_iff.1 h
  rw [Text.chars?_eq_some_iff.1 hcs, Text.length_ofChars]
  unfold decodeChars? at hbs
  split at hbs
  · cases hbs
  · exact decodeGroups?_length hbs

end Base64

namespace Base58

theorem numeralValue_lt {ds : List Nat} (h : ∀ d ∈ ds, d < 58) :
    numeralValue ds < 58 ^ ds.length := by
  induction ds using List.reverseRecOn with
  | nil => simp [numeralValue]
  | append_singleton ds d ih =>
    have hds := ih fun e he => h e (by simp [he])
    have hd := h d (by simp)
    rw [numeralValue_append, List.length_append, List.length_singleton, Nat.pow_succ]
    omega

theorem minimalBytes_length_le {n k : Nat} (h : n < 256 ^ k) : (minimalBytes n).length ≤ k := by
  induction k generalizing n with
  | zero =>
    obtain rfl : n = 0 := by omega
    simp [minimalBytes]
  | succ k ih =>
    rw [minimalBytes]
    split
    · exact Nat.zero_le _
    · rw [List.length_append, List.length_singleton]
      exact Nat.succ_le_succ (ih (by rw [Nat.pow_succ] at h; omega))

theorem decodeChars_length {cs : List Char} {bs : Bytes} (h : decodeChars cs = .ok bs) :
    bs.length ≤ cs.length := by
  obtain ⟨ds, hds, rfl⟩ := map_eq_ok_iff.1 h
  obtain ⟨hmap, hlt⟩ := digitValues_eq_ok hds
  have hvalue : numeralValue ds < 256 ^ ds.length :=
    Nat.lt_of_lt_of_le (numeralValue_lt hlt) (Nat.pow_le_pow_left (by decide) _)
  have hbytes := minimalBytes_length_le hvalue
  have hdigits : ds.length = (cs.dropWhile (· = '1')).length := by rw [← hmap, List.length_map]
  have hsplit : (cs.takeWhile (· = '1')).length + (cs.dropWhile (· = '1')).length = cs.length := by
    rw [← List.length_append, List.takeWhile_append_dropWhile]
  rw [List.length_append, List.length_map]
  omega

theorem decode_length {t : Text} {bs : Bytes} (h : decode t = .ok bs) : bs.length ≤ t.length := by
  unfold decode at h
  split at h
  · rename_i cs hcs
    have hlength := decodeChars_length h
    have hascii : (Text.trimEnd CodePoint.isBlank t.toList).length = cs.length := by
      rw [mapM_ascii? hcs, List.length_map]
    have htrim : (Text.trimEnd CodePoint.isBlank t.toList).length ≤ t.toList.length := by
      rw [Text.trimEnd, List.length_reverse]
      exact Nat.le_trans (List.dropWhile_sublist _).length_le (Nat.le_of_eq List.length_reverse)
    rw [Text.length]
    omega
  · cases h

end Base58

end CrossVenue
