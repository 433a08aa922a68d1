import CrossVenue.Proofs.Encoding.Words
import CrossVenue.Venue.Calldata
import CrossVenue.Venue.Slot0

/-!
# The packed word read back

The four fields of a Uniswap pool stand side by side in one word.  Each is read from its own bytes, so no
value of one reaches into another, and the tick comes back with its sign.

* `Slot0.InRange` : fields that their bytes hold;
* `Slot0.ofBytes_toBytes` : what is packed is read;
* `Slot0.toBytes_of_ofBytes` : what is read packs to the bytes that it was read from;
* `slot0_unpacked` : unpacking and packing undo each other.
-/

set_option autoImplicit false

namespace CrossVenue

namespace Slot0

/-- Do the bytes of the fields hold their values? -/
structure InRange (s : Slot0) : Prop where
  lpFee : s.lpFee ≤ maxWord24
  protocolFee : s.protocolFee ≤ maxWord24
  tick : minSigned24 ≤ s.tick ∧ s.tick ≤ maxSigned24
  sqrtPrice : s.sqrtPrice ≤ maxWord160

variable {s : Slot0} {word leading : Bytes}

/-! ## Packing -/

/-- The leading bytes are followed by the fields, whatever they are. -/
theorem toBytes_eq (s : Slot0) (leading : Bytes) : s.toBytes leading = leading ++ s.toBytes [] := by
  simp only [toBytes, List.append_assoc, List.nil_append]

theorem toBytes_length (s : Slot0) (hleading : leading.length = 3) :
    (s.toBytes leading).length = 32 := by
  simp only [toBytes, List.length_append, Bytes.ofBigEndian_length, hleading]

theorem drop_toBytes (s : Slot0) (hleading : leading.length = 3) :
    (s.toBytes leading).drop 3 = s.toBytes [] := by
  rw [toBytes_eq, List.drop_left' hleading]

/-! ## Reading what is packed -/

/-- The bytes of the fields stand at their places: each ends where the next one starts. -/
theorem slices_toBytes (s : Slot0) (hleading : leading.length = 3) :
    Bytes.slice (s.toBytes leading) 3 3 = Bytes.ofBigEndian 3 s.lpFee ∧
      Bytes.slice (s.toBytes leading) 6 3 = Bytes.ofBigEndian 3 s.protocolFee ∧
      Bytes.slice (s.toBytes leading) 9 3 = Bytes.ofBigEndian 3 (s.tick % 0x1000000).toNat ∧
      Bytes.slice (s.toBytes leading) 12 20 = Bytes.ofBigEndian 20 s.sqrtPrice := by
  unfold toBytes
  refine ⟨?lpFee, ?protocolFee, ?tick, ?sqrtPrice⟩
  case lpFee =>
    rw [Bytes.slice_append_of_le, Bytes.slice_append_of_le, Bytes.slice_append_of_le,
      Bytes.slice_append_self hleading (Bytes.ofBigEndian_length _ _)] <;>
      simp [Bytes.ofBigEndian_length, hleading]
  case protocolFee =>
    rw [Bytes.slice_append_of_le, Bytes.slice_append_of_le, Bytes.slice_append_self] <;>
      simp [Bytes.ofBigEndian_length, hleading]
  case tick =>
    rw [Bytes.slice_append_of_le, Bytes.slice_append_self] <;>
      simp [Bytes.ofBigEndian_length, hleading]
  case sqrtPrice =>
    rw [Bytes.slice_append_self] <;> simp [Bytes.ofBigEndian_length, hleading]

/-- **What is packed is read**, after any three bytes. -/
theorem ofBytes_toBytes (h : s.InRange) (hleading : leading.length = 3) :
    ofBytes (s.toBytes leading) = .ok s := by
  have hsize : ¬ (s.toBytes leading).length ≠ 32 := fun h => h (toBytes_length s hleading)
  obtain ⟨hlpFee, hprotocolFee, htick, hsqrtPrice⟩ := slices_toBytes s hleading
  have hword24 : maxWord24 < Nat.pow 256 3 := by decide
  have hword160 : maxWord160 < Nat.pow 256 20 := by decide
  have hcomplement : (s.tick % 0x1000000).toNat < Nat.pow 256 3 := by
    have hpow : Nat.pow 256 3 = 0x1000000 := by decide
    omega
  have hsigned : Bytes.signed 24 (s.tick % 0x1000000).toNat = s.tick := by
    obtain ⟨hleast, hgreatest⟩ := h.tick
    unfold minSigned24 at hleast
    unfold maxSigned24 at hgreatest
    have hpow : (Nat.pow 2 24 : Int) = 0x1000000 := by decide
    have hread := @Bytes.signed_emod 24 s.tick
    rw [hpow] at hread
    exact hread (by omega) (by omega)
  rw [ofBytes, if_neg hsize, hlpFee, hprotocolFee, htick, hsqrtPrice,
    Bytes.bigEndian_of_lt (Nat.lt_of_le_of_lt h.lpFee hword24),
    Bytes.bigEndian_of_lt (Nat.lt_of_le_of_lt h.protocolFee hword24),
    Bytes.bigEndian_of_lt hcomplement, hsigned,
    Bytes.bigEndian_of_lt (Nat.lt_of_le_of_lt h.sqrtPrice hword160)]

/-! ## Packing what is read -/

theorem ofBytes_eq_ok_iff :
    ofBytes word = .ok s ↔ word.length = 32 ∧ s =
      { sqrtPrice := Bytes.bigEndian (Bytes.slice word 12 20)
        tick := Bytes.signed 24 (Bytes.bigEndian (Bytes.slice word 9 3))
        protocolFee := Bytes.bigEndian (Bytes.slice word 6 3)
        lpFee := Bytes.bigEndian (Bytes.slice word 3 3) } := by
  unfold ofBytes rejectAt
  split <;> simp_all [eq_comm]

/-- A piece of a word as a number. -/
theorem bigEndian_slice_lt {i n : Nat} (h : i + n ≤ word.length) :
    Bytes.bigEndian (Bytes.slice word i n) < Nat.pow 256 n := by
  have hlt := Bytes.bigEndian_lt (Bytes.slice word i n)
  rwa [Bytes.length_slice h] at hlt

/-- What is read is in range. -/
theorem inRange_of_ofBytes (h : ofBytes word = .ok s) : s.InRange := by
  obtain ⟨hsize, rfl⟩ := ofBytes_eq_ok_iff.1 h
  have hbounds := @Bytes.signed_bounds 24 _ (@bigEndian_slice_lt word 9 3 (by omega))
  have hpow : (Nat.pow 2 24 : Int) = 0x1000000 := by decide
  rw [hpow] at hbounds
  exact
    { lpFee := Nat.le_of_lt_succ (bigEndian_slice_lt (by omega))
      protocolFee := Nat.le_of_lt_succ (bigEndian_slice_lt (by omega))
      tick := by
        unfold minSigned24 maxSigned24
        dsimp only
        omega
      sqrtPrice := Nat.le_of_lt_succ (bigEndian_slice_lt (by omega)) }

/-- **What is read packs to the bytes that it was read from.** -/
theorem toBytes_of_ofBytes (h : ofBytes word = .ok s) : s.toBytes [] = word.drop 3 := by
  obtain ⟨hsize, rfl⟩ := ofBytes_eq_ok_iff.1 h
  have hpiece : ∀ i n, i + n ≤ 32 →
      Bytes.ofBigEndian n (Bytes.bigEndian (Bytes.slice word i n)) = Bytes.slice word i n :=
    fun i n hin => Bytes.ofBigEndian_bigEndian (Bytes.length_slice (hsize ▸ hin))
  have hcomplement : (Bytes.signed 24 (Bytes.bigEndian (Bytes.slice word 9 3)) % 0x1000000).toNat =
      Bytes.bigEndian (Bytes.slice word 9 3) :=
    @Bytes.emod_signed 24 _ (bigEndian_slice_lt (by omega))
  have hlast : Bytes.slice word 12 20 = word.drop 12 :=
    List.take_of_length_le (by simp [hsize])
  rw [toBytes, hcomplement, hpiece 3 3 (by decide), hpiece 6 3 (by decide), hpiece 9 3 (by decide),
    hpiece 12 20 (by decide), hlast, List.nil_append, List.append_assoc, List.append_assoc,
    Bytes.slice_append_drop, Bytes.slice_append_drop, Bytes.slice_append_drop]

end Slot0

/-- **Unpacking and packing undo each other.**  Fields in range are read from their word, whatever its three
leading bytes are.  Every word of thirty-two bytes is read as fields in range, and these pack to its last
twenty-nine bytes again. -/
theorem slot0_unpacked :
    (∀ (s : Slot0) (leading : Bytes), s.InRange → leading.length = 3 →
      (s.toBytes leading).length = 32 ∧ Slot0.ofBytes (s.toBytes leading) = .ok s) ∧
    ∀ word : Bytes, word.length = 32 →
      ∃ s, Slot0.ofBytes word = .ok s ∧ s.InRange ∧
        ∀ leading : Bytes, leading.length = 3 → (s.toBytes leading).drop 3 = word.drop 3 := by
  constructor
  · intro s leading h hleading
    exact ⟨s.toBytes_length hleading, Slot0.ofBytes_toBytes h hleading⟩
  · intro word hsize
    have hread := Slot0.ofBytes_eq_ok_iff.2 ⟨hsize, rfl⟩
    refine ⟨_, hread, Slot0.inRange_of_ofBytes hread, fun leading hleading => ?_⟩
    rw [Slot0.drop_toBytes _ hleading, Slot0.toBytes_of_ofBytes hread]

/-- The greatest price and protocol fee beside the least tick. -/
def extremeSlot0 : Slot0 := ⟨maxWord160, minSigned24, maxWord24, 3000⟩

/-- Neither the sign of the tick nor the ones around it reach into other fields. -/
theorem extremeSlot0_unpacked :
    (extremeSlot0.InRange ∧
      Slot0.ofBytes (extremeSlot0.toBytes [0xde, 0xad, 0xff]) = .ok extremeSlot0) ∧
    ∃ s, Slot0.ofBytes (List.replicate 32 0xff) = .ok s ∧ s.tick = -1 ∧
      (s.toBytes [0, 0, 0]).drop 3 = List.replicate 29 0xff := by
  have hrange : extremeSlot0.InRange := ⟨by decide, by decide, by decide, by decide⟩
  obtain ⟨s, hread, -, hpacked⟩ := slot0_unpacked.2 (List.replicate 32 0xff) rfl
  have htick : (Slot0.ofBytes (List.replicate 32 0xff)).map Slot0.tick = .ok (-1) := rfl
  rw [hread] at htick
  exact ⟨⟨hrange, (slot0_unpacked.1 extremeSlot0 _ hrange rfl).2⟩, s, hread, Except.ok.inj htick,
    hpacked [0, 0, 0] rfl⟩

end CrossVenue
