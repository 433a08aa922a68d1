import CrossVenue.Proofs.Address.Key
import CrossVenue.Proofs.Encoding.Base58

/-!
# One spelling for every key

A key has one written form.  It spells the number of the key's bytes in base fifty-eight, behind as many
ones as the key has zero bytes in front.  Whatever is read as the key is this form with blanks behind it,
and all other texts are rejected.

* `Base58.spells_encodeChars` : what base58 text says of the bytes that it spells;
* `Pubkey.ofText_eq_ok_iff` : which texts are read as a key;
* `Pubkey.ofText_eq_ofText_iff` : which texts spell one key;
* `Pubkey.cause_of_ofRaw` : everything else is rejected as an address;
* `keys_spelled_once` : keys and their written forms correspond.
-/

set_option autoImplicit false

namespace CrossVenue

namespace Base58

/-- Characters spell bytes: they begin with as many ones as the bytes with zeros, and stand for the
number of the bytes. -/
structure Spells (cs : List Char) (bs : Bytes) : Prop where
  ones : (cs.takeWhile (· = '1')).length = (bs.takeWhile (· = 0)).length
  number : ∃ ds, digitValues cs = .ok ds ∧ numeralValue ds = bs.bigEndian

/-- Leading zeros are digits that do not count. -/
theorem numeralValue_zeros_append (k : Nat) (ds : List Nat) :
    numeralValue (List.replicate k 0 ++ ds) = numeralValue ds := by
  induction k with
  | zero => rfl
  | succ k ih => exact ih

theorem spells_encodeChars (bs : Bytes) : Spells (encodeChars bs) bs := by
  have hones : encodeChars bs =
      List.replicate (bs.takeWhile (· = 0)).length '1' ++ (numeral bs.bigEndian).map digit := by
    rw [encodeChars, List.map_const']
  constructor
  · rw [hones, takeWhile_replicate_append (head?_map_digit_ne _), List.length_replicate]
  · let ds := List.replicate (bs.takeWhile (· = 0)).length 0 ++ numeral bs.bigEndian
    have hlt : ∀ d ∈ ds, d < 58 := by
      intro d hd
      rcases List.mem_append.1 hd with hd | hd
      · rw [List.eq_of_mem_replicate hd]
        decide
      · exact numeral_lt hd
    have hmap : ds.map digit = encodeChars bs := by
      rw [hones, List.map_append, List.map_replicate]
      rfl
    refine ⟨ds, hmap ▸ digitValues_map_digit hlt, ?_⟩
    rw [numeralValue_zeros_append, numeralValue_numeral]

end Base58

namespace Pubkey

variable {s t : Text} {k l : Pubkey}

/-! ## Which texts spell a key -/

theorem decode_of_ofText (h : ofText s = .ok k) : Base58.decode s = .ok k.bytes := by
  unfold ofText at h
  split at h
  · cases h
  · split at h
    · cases h
    · cases h
    · rename_i bs hbs
      unfold ofBytesOr at h
      split at h
      · cases h
        exact hbs
      · cases h

/-- **A text that spells a key is the written form of the key**, up to blanks at its end. -/
theorem trimmedEnd_of_ofText (h : ofText s = .ok k) : s.trimmedEnd = k.toText :=
  Base58.trimmedEnd_of_decode (decode_of_ofText h)

/-- Blanks at the end are dropped before anything is read. -/
theorem decode_eq_decode (h : s.trimmedEnd = t.trimmedEnd) : Base58.decode s = Base58.decode t := by
  rw [Text.trimmedEnd, Text.trimmedEnd, Text.mk.injEq] at h
  rw [Base58.decode, h, Base58.decode]

/-- **Two texts spell one key when they differ only in blanks at their ends.** -/
theorem ofText_eq_ofText_iff (hs : ofText s = .ok k) (ht : ofText t = .ok l) :
    k = l ↔ s.trimmedEnd = t.trimmedEnd := by
  constructor
  · rintro rfl
    rw [trimmedEnd_of_ofText hs, trimmedEnd_of_ofText ht]
  · intro h
    have hd := decode_of_ofText hs
    rw [decode_eq_decode h, decode_of_ofText ht, Except.ok.injEq] at hd
    exact Pubkey.ext hd.symm

/-- **The texts of a key are its written form with blanks behind it.** -/
theorem ofText_eq_ok_iff : ofText s = .ok k ↔ s.trimmedEnd = k.toText := by
  refine ⟨trimmedEnd_of_ofText, fun h => ?_⟩
  have hwritten : k.toText.trimmedEnd = k.toText := trimmedEnd_of_ofText k.ofText_toText
  have hdecode : Base58.decode s = .ok k.bytes := by
    rw [decode_eq_decode (h.trans hwritten.symm)]
    exact decode_of_ofText k.ofText_toText
  have hne : s ≠ "" := by
    rintro rfl
    -- nothing spells no bytes
    have hlength := Base58.decode_length hdecode
    rw [k.length_eq] at hlength
    exact absurd hlength (by decide)
  rw [ofText, if_neg hne, hdecode]
  exact dif_pos k.length_eq

/-! ## Everything else is rejected -/

theorem cause_of_ofBytesOr {fault : Nat → AddressFault} {bs : Bytes} {r : Rejection}
    (h : ofBytesOr fault bs = .error r) : ∃ f, r = ⟨.address f, ""⟩ := by
  unfold ofBytesOr reject at h
  split at h
  · cases h
  · cases h
    exact ⟨_, rfl⟩

theorem cause_of_ofText {r : Rejection} (h : ofText s = .error r) : ∃ f, r = ⟨.address f, ""⟩ := by
  unfold ofText reject at h
  split at h
  · cases h
    exact ⟨_, rfl⟩
  split at h
  · cases h
    exact ⟨_, rfl⟩
  · cases h
    exact ⟨_, rfl⟩
  · exact cause_of_ofBytesOr h

/-- **What is no key is rejected as an address**, whatever it is. -/
theorem cause_of_ofRaw {given : RawKey} {r : Rejection} (h : ofRaw given = .error r) :
    ∃ f, r = ⟨.address f, ""⟩ := by
  cases given with
  | key k => cases h
  | bytes bs => exact cause_of_ofBytesOr h
  | value v =>
    cases v with
    | str s => exact cause_of_ofText h
    | _ =>
      cases h
      exact ⟨_, rfl⟩

end Pubkey

/-- **A key is spelled in one way.**  Its written form is read as the key; a text is read as a key exactly
when it is the written form with blanks behind it, and is rejected as an address when it is no such form;
and the written form has a one for each zero byte in front and spells the number of the bytes. -/
theorem keys_spelled_once :
    (∀ k : Pubkey, Pubkey.ofRaw (.value (.str k.toText)) = .ok k) ∧
    (∀ (s : Text) (k : Pubkey),
      Pubkey.ofRaw (.value (.str s)) = .ok k ↔ s.trimmedEnd = k.toText) ∧
    (∀ s : Text, (∃ fault, Pubkey.ofRaw (.value (.str s)) = .error ⟨.address fault, ""⟩) ↔
      ∀ k : Pubkey, s.trimmedEnd ≠ k.toText) ∧
    ∀ k : Pubkey, ∃ cs, k.toText.chars? = some cs ∧ Base58.Spells cs k.bytes := by
  have hread : ∀ s : Text, Pubkey.ofRaw (.value (.str s)) = Pubkey.ofText s := fun _ => rfl
  simp only [hread]
  refine ⟨Pubkey.ofText_toText, fun s k => Pubkey.ofText_eq_ok_iff, fun s => ?_, fun k => ?_⟩
  · constructor
    · rintro ⟨fault, hs⟩ k hk
      rw [Pubkey.ofText_eq_ok_iff.2 hk] at hs
      cases hs
    · intro hnone
      cases hs : Pubkey.ofText s with
      | ok k => exact absurd (Pubkey.trimmedEnd_of_ofText hs) (hnone k)
      | error r =>
        obtain ⟨fault, rfl⟩ := Pubkey.cause_of_ofText hs
        exact ⟨fault, rfl⟩
  · refine ⟨Base58.encodeChars k.bytes, ?_, Base58.spells_encodeChars k.bytes⟩
    rw [Text.chars?_eq_some_iff, Pubkey.toText, Base58.encode, Text.ofString, String.toList_ofList]

end CrossVenue
