import CrossVenue.Address.Pubkey
import CrossVenue.Proofs.Encoding.Lengths

/-!
# Texts that spell keys

A text that spells a key is made of ASCII characters and blanks, so it is plain.  The written form of a
key spells it.

* `isPlain_of_isKey` : no half of a pair stands in such a text;
* `Pubkey.ofText_toText`, `isKey_toText` : written keys are keys.
-/

set_option autoImplicit false

namespace CrossVenue

/-- Does a text spell a key? -/
def IsKey (s : Text) : Prop := ∃ k, Pubkey.ofText s = .ok k

theorem isKey_iff {s : Text} : IsKey s ↔ (Pubkey.ofText s).toOption.isSome = true := by
  unfold IsKey
  cases h : Pubkey.ofText s with
  | error e => simp [Except.toOption]
  | ok k => simp [Except.toOption]

instance (s : Text) : Decidable (IsKey s) := decidable_of_iff _ isKey_iff.symm

/-- An element stands in the tail that is cut off, where all elements satisfy the test, or before it. -/
theorem Text.mem_trimEnd_or {α : Type} {p : α → Bool} {xs : List α} {x : α} (h : x ∈ xs) :
    x ∈ trimEnd p xs ∨ p x = true := by
  have hx : x ∈ xs.reverse.takeWhile p ++ xs.reverse.dropWhile p := by
    rw [List.takeWhile_append_dropWhile]
    exact List.mem_reverse.2 h
  rcases List.mem_append.1 hx with hx | hx
  · exact .inr (List.all_eq_true.1 List.all_takeWhile x hx)
  · exact .inl (List.mem_reverse.2 hx)

theorem mapM_eq_none_of_mem {α β : Type} {f : α → Option β} {xs : List α} {x : α} (hm : x ∈ xs)
    (hx : f x = none) : xs.mapM f = none := by
  induction xs with
  | nil => cases hm
  | cons y ys ih =>
    rcases List.mem_cons.1 hm with rfl | hm
    · simp [List.mapM_cons, hx]
    · simp [List.mapM_cons, ih hm]

/-- What base58 reads at all is plain. -/
theorem Base58.isPlain_of_decode {t : Text} (h : Base58.decode t ≠ .error .notAscii) :
    t.isPlain = true := by
  unfold Base58.decode at h
  split at h
  · rename_i cs hcs
    refine List.all_eq_true.2 fun p hp => ?_
    rcases Text.mem_trimEnd_or (p := CodePoint.isBlank) hp with hm | hb
    · cases p with
      | char c => rfl
      | half n =>
        -- a half among the digits would not have been taken for a character
        have hnone : (Text.trimEnd CodePoint.isBlank t.toList).mapM Base58.ascii? = none :=
          mapM_eq_none_of_mem hm rfl
        rw [hnone] at hcs
        cases hcs
    · cases p with
      | char c => rfl
      | half n => cases hb
  · exact absurd rfl h

/-- **The written form of a key spells the key.** -/
theorem Pubkey.ofText_toText (k : Pubkey) : ofText k.toText = .ok k := by
  have hdecode : Base58.decode k.toText = .ok k.bytes := Base58.decode_encode k.bytes
  have hne : k.toText ≠ "" := by
    intro h
    have hlength := Base58.decode_length hdecode
    rw [h, k.length_eq] at hlength
    exact absurd hlength (by decide)
  rw [ofText, if_neg hne, hdecode]
  exact dif_pos k.length_eq

theorem isKey_toText (k : Pubkey) : IsKey k.toText := ⟨k, k.ofText_toText⟩

theorem isPlain_of_isKey {s : Text} (h : IsKey s) : s.isPlain = true := by
  obtain ⟨k, hk⟩ := h
  refine Base58.isPlain_of_decode fun hd => ?_
  unfold Pubkey.ofText at hk
  split at hk
  · cases hk
  · rw [hd] at hk
    cases hk

end CrossVenue
