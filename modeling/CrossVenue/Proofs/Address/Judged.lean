import CrossVenue.Address.Derived
import CrossVenue.Proofs.Address.Key
import CrossVenue.Proofs.Number.Short
import CrossVenue.Proofs.Reported

/-!
# Addresses that are read or rejected

Texts that spell no key are rejected in a message that shows them.  The address of a few seeds that are
keys is always found, unless every bump is tried in vain.

* `Pubkey.judged_ofText` : plain texts;
* `judged_findFrom` : the search, by induction on the bumps that are left;
* `judged_associatedTokenAddress` : the account of an owner's tokens.
-/

set_option autoImplicit false

namespace CrossVenue

theorem Pubkey.judged_ofText {s : Text} (hs : s.isPlain = true)
    (hlength : s.length < Number.tooLong) : Judged (ofText s) := by
  unfold ofText
  split
  · exact judged_reject (by simp [AddressFault.sentence])
  split
  · exact judged_reject (by simp [AddressFault.sentence, hs])
  · exact judged_reject (by simp [AddressFault.sentence, hs])
  · rename_i bs hbs
    have hsize : Pubkey.size ≤ maxWord := by decide
    have hshort := Nat.lt_of_le_of_lt (Base58.decode_length hbs) hlength
    unfold ofBytesOr
    split
    · exact .of_ok rfl
    · refine judged_reject ?_
      simp [AddressFault.sentence, hs, Number.isWritable_of_le_maxWord hsize,
        Number.isWritable_natCast hshort]

/-! ## Seeds -/

theorem judged_offCurveAddress (seeds : List Bytes) (program : Pubkey) :
    Judged (offCurveAddress seeds program) := by
  unfold offCurveAddress
  split
  · exact judged_reject (by simp [SeedFault.sentence])
  · exact .of_ok rfl

theorem requireSeeds_of_short {seeds : List Bytes} (hcount : seeds.length ≤ maxSeeds)
    (hshort : ∀ s ∈ seeds, s.length ≤ maxSeedLength) : requireSeeds seeds = .ok () := by
  have hfind : seeds.find? (fun s => decide (maxSeedLength < s.length)) = none := by
    simpa using hshort
  rw [requireSeeds, if_neg (Nat.not_lt.2 hcount), requireShortSeeds, hfind]

theorem judged_addressOfSeeds {seeds : List Bytes} (hcount : seeds.length ≤ maxSeeds)
    (hshort : ∀ s ∈ seeds, s.length ≤ maxSeedLength) (program : Pubkey) :
    Judged (addressOfSeeds seeds (.key program)) := by
  unfold addressOfSeeds
  rw [requireSeeds_of_short hcount hshort]
  exact FailsOnly.bind (.of_ok rfl) fun _ _ =>
    FailsOnly.bind (.of_ok (a := program) rfl) fun _ _ => judged_offCurveAddress _ _

/-- The search goes on only after seeds whose address is on the curve, and ends after the last bump. -/
theorem judged_findFrom {seeds : List Bytes} (hcount : seeds.length < maxSeeds)
    (hshort : ∀ s ∈ seeds, s.length ≤ maxSeedLength) (program : Pubkey) (tried : List Nat) :
    Judged (findFrom seeds program tried) := by
  induction tried with
  | nil => exact judged_reject ⟨by simp [Cause.sentence, Pubkey.toText], Sentence.sayable_nil⟩
  | cons bump rest ih =>
    have haddress : Judged (addressOfSeeds (seeds ++ [[UInt8.ofNat bump]]) (.key program)) := by
      refine judged_addressOfSeeds ?_ ?_ program
      · rw [List.length_append, List.length_singleton]
        exact hcount
      · rw [List.forall_mem_append]
        exact ⟨hshort, by simp [maxSeedLength]⟩
    unfold findFrom
    split
    · exact .of_ok rfl
    · exact ih
    · rename_i r _ hr
      exact .of_error (haddress r hr)

/-! ## Token accounts -/

theorem IsKey.judged_ofText {s : Text} (h : IsKey s) : Judged (Pubkey.ofText s) := by
  obtain ⟨k, hk⟩ := h
  exact .of_ok hk

theorem judged_associatedTokenAddress (owner : Pubkey) {mint tokenProgram ataProgram : Text}
    (hm : IsKey mint) (ht : IsKey tokenProgram) (ha : IsKey ataProgram) :
    Judged (associatedTokenAddress (.key owner) (.value (.str mint)) (.value (.str tokenProgram))
      (.value (.str ataProgram))) := by
  unfold associatedTokenAddress findProgramAddress
  refine FailsOnly.bind (.of_ok (a := owner) rfl) fun _ _ => ?_
  refine ht.judged_ofText.bind fun token _ => ?_
  refine hm.judged_ofText.bind fun mint _ => ?_
  refine FailsOnly.bind ?_ fun _ _ => .of_ok rfl
  refine FailsOnly.bind (.of_ok (a := [_, _, _]) rfl) fun seeds hseeds => ?_
  cases hseeds
  refine ha.judged_ofText.bind fun program _ => judged_findFrom ?_ ?_ _ _
  · simp [maxSeeds]
  · simp [Pubkey.length_eq, maxSeedLength]

end CrossVenue
