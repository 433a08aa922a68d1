import CrossVenue.Json.Encoded
import CrossVenue.Proofs.Json.Roundtrip

/-!
# Values in bytes

The compact text of a value is made of printable ASCII characters, which are bytes by themselves: no
byte order mark and no zero byte suggests another encoding than UTF-8.

* `chars_printable` : what a value is written with;
* `decode?_printable` : bytes of printable characters are the text of these;
* `readBytes_encode` : the bytes of a value are read back.
-/

set_option autoImplicit false

namespace CrossVenue

/-- A printable ASCII character. -/
def IsPrintable (c : Char) : Prop := 0x20 ≤ c.toNat ∧ c.toNat < 0x7F

instance (c : Char) : Decidable (IsPrintable c) := inferInstanceAs (Decidable (_ ∧ _))

/-- Characters that are written down are looked at one after the other. -/
theorem printable_of_all {cs : List Char} (h : (cs.all fun c => decide (IsPrintable c)) = true) :
    ∀ c ∈ cs, IsPrintable c :=
  fun c hc => of_decide_eq_true (List.all_eq_true.1 h c hc)

namespace Json

/-! ## What is written -/

theorem digit_printable : ∀ n, n < 16 → IsPrintable (Hex.digit n) := by decide

theorem escapedUnit_printable (n : Nat) : ∀ c ∈ escapedUnit n, IsPrintable c := by
  intro c hc
  simp only [escapedUnit, Hex.padded, List.nil_append, List.cons_append, List.mem_cons,
    List.not_mem_nil, or_false] at hc
  rcases hc with rfl | rfl | rfl | rfl | rfl | rfl
  · decide
  · decide
  · exact digit_printable _ (by omega)
  · exact digit_printable _ (by omega)
  · exact digit_printable _ (by omega)
  · exact digit_printable _ (by omega)

theorem writtenChar_printable (c : Char) : ∀ d ∈ writtenChar c, IsPrintable d := by
  intro d hd
  unfold writtenChar at hd
  split at hd
  · exact printable_of_all (by decide) d hd
  split at hd
  · exact printable_of_all (by decide) d hd
  split at hd
  · exact printable_of_all (by decide) d hd
  split at hd
  · exact printable_of_all (by decide) d hd
  split at hd
  · exact printable_of_all (by decide) d hd
  split at hd
  · exact printable_of_all (by decide) d hd
  split at hd
  · exact printable_of_all (by decide) d hd
  split at hd
  · rename_i h
    obtain rfl := List.mem_singleton.1 hd
    exact ⟨h.1, by omega⟩
  split at hd
  · exact escapedUnit_printable _ d hd
  · rcases List.mem_append.1 hd with hd | hd
    · exact escapedUnit_printable _ d hd
    · exact escapedUnit_printable _ d hd

theorem writtenText_printable (t : Text) : ∀ c ∈ writtenText t, IsPrintable c := by
  intro c hc
  simp only [writtenText, List.cons_append, List.mem_cons, List.mem_append, List.mem_flatMap,
    List.not_mem_nil, or_false] at hc
  rcases hc with rfl | ⟨p, -, hp⟩ | rfl
  · decide
  · cases p with
    | char d => exact writtenChar_printable d c hp
    | half n => exact escapedUnit_printable _ c hp
  · decide

theorem int_printable (n : Int) : ∀ c ∈ (toString n).toList, IsPrintable c := by
  intro c hc
  rcases int_chars n c hc with rfl | hd
  · decide
  · obtain ⟨h1, h2⟩ := Text.toNat_of_isDigit hd
    exact ⟨by omega, by omega⟩

mutual

theorem chars_printable : ∀ (v : Json) (room : Nat), v.IsReadable room →
    ∀ c ∈ v.chars, IsPrintable c
  | .null, _, _ => printable_of_all (by decide)
  | .bool true, _, _ => printable_of_all (by decide)
  | .bool false, _, _ => printable_of_all (by decide)
  | .int n, _, _ => int_printable n
  | .float x, _, hv => absurd hv (by simp [IsReadable])
  | .str s, _, _ => writtenText_printable s
  | .arr items, room, hv => by
    intro c hc
    simp only [chars, List.cons_append, List.mem_cons, List.mem_append, List.not_mem_nil,
      or_false] at hc
    rcases hc with rfl | hc | rfl
    · decide
    · exact itemChars_printable items (room - 1) hv.2 c hc
    · decide
  | .obj fields, room, hv => by
    intro c hc
    simp only [chars, List.cons_append, List.mem_cons, List.mem_append, List.not_mem_nil,
      or_false] at hc
    rcases hc with rfl | hc | rfl
    · decide
    · exact fieldChars_printable fields (room - 1) hv.2.2 c hc
    · decide

theorem itemChars_printable : ∀ (items : List Json) (room : Nat), AreReadable items room →
    ∀ c ∈ itemChars items, IsPrintable c
  | [], _, _ => by simp [itemChars]
  | [v], room, hv => chars_printable v room hv.1
  | v :: w :: items, room, hv => by
    intro c hc
    simp only [itemChars, List.mem_append, List.mem_cons] at hc
    rcases hc with hc | rfl | hc
    · exact chars_printable v room hv.1 c hc
    · decide
    · exact itemChars_printable (w :: items) room hv.2 c hc

theorem fieldChars_printable : ∀ (fields : List (Text × Json)) (room : Nat),
    HaveReadable fields room → ∀ c ∈ fieldChars fields, IsPrintable c
  | [], _, _ => by simp [fieldChars]
  | [(name, v)], room, hv => by
    intro c hc
    simp only [fieldChars, List.mem_append, List.mem_cons] at hc
    rcases hc with hc | rfl | hc
    · exact writtenText_printable name c hc
    · decide
    · exact chars_printable v room hv.1 c hc
  | (name, v) :: p :: fields, room, hv => by
    intro c hc
    simp only [fieldChars, List.mem_append, List.mem_cons] at hc
    rcases hc with (hc | rfl | hc) | rfl | hc
    · exact writtenText_printable name c hc
    · decide
    · exact chars_printable v room hv.1 c hc
    · decide
    · exact fieldChars_printable (p :: fields) room hv.2 c hc

end

/-! ## What bytes hold -/

theorem byte_toNat {c : Char} (h : IsPrintable c) : (UInt8.ofNat c.toNat).toNat = c.toNat := by
  obtain ⟨h1, h2⟩ := h
  simp only [UInt8.toNat_ofNat']
  omega

theorem utf8Points?_printable {cs : List Char} (h : ∀ c ∈ cs, IsPrintable c) :
    Unicode.utf8Points? (cs.map fun c => UInt8.ofNat c.toNat) = some (points cs) := by
  induction cs with
  | nil => rfl
  | cons c cs ih =>
    have hc := byte_toNat (h c (by simp))
    have hlt : c.toNat < 0x80 := by have := (h c (by simp)).2; omega
    rw [List.map_cons, Unicode.utf8Points?.eq_def]
    simp only [hc, hlt, if_true, ih fun d hd => h d (List.mem_cons_of_mem _ hd)]
    exact congrArg (fun p => some (p :: points cs)) (CodePoint.ofNat_toNat (.char c))

/-- Bytes of printable characters hold these characters. -/
theorem decode?_printable {cs : List Char} (h : ∀ c ∈ cs, IsPrintable c) :
    Unicode.decode? (cs.map fun c => UInt8.ofNat c.toNat) = some ⟨points cs⟩ := by
  have hd : Unicode.detect (cs.map fun c => UInt8.ofNat c.toNat) = .utf8 0 := by
    have hb : ∀ c ∈ cs, UInt8.ofNat c.toNat ≠ 0 ∧ UInt8.ofNat c.toNat < 128 := by
      intro c hc
      have ht := byte_toNat (h c hc)
      obtain ⟨h1, h2⟩ := h c hc
      refine ⟨fun h0 => ?_, ?_⟩
      · rw [h0] at ht
        simp at ht
        omega
      · rw [UInt8.lt_iff_toNat_lt, ht]
        show c.toNat < 128
        omega
    match cs with
    | [] => decide
    | [a] =>
      simp [Unicode.detect, Unicode.detectByZeros, List.isPrefixOf]
    | a :: b :: rest =>
      exact Unicode.detect_of_ascii (hb a (by simp)).1 (hb a (by simp)).2 (hb b (by simp)).1
  simp only [Unicode.decode?, hd, List.drop_zero, utf8Points?_printable h]
  rfl

/-- The bytes of a value are read as its characters are. -/
theorem readBytes_eq {v : Json} {enough : Nat} (hv : v.IsReadable enough) (room : Room) :
    readBytes room v.encode = (readPoints room (points v.chars)).mapError .notRead := by
  have hp := chars_printable v enough hv
  have hmark : (Text.mk (points v.chars)).toList.head? ≠ some byteOrderMark := by
    obtain ⟨c, cs, hc, -⟩ := chars_start hv
    have hlt := (hp c (by rw [hc]; simp)).2
    rw [hc]
    simp only [points_cons, List.head?_cons, byteOrderMark, ne_eq, Option.some.injEq,
      CodePoint.char.injEq]
    rintro rfl
    revert hlt
    decide
  rw [readBytes, encode, decode?_printable hp]
  simp only [read, if_neg hmark]

/-- **The bytes of a value are read back.** -/
theorem readBytes_encode {v : Json} {room : Room} (hv : v.IsReadable room.levels) :
    readBytes room v.encode = .ok v.rejoined := by
  rw [readBytes_eq hv room, readPoints_chars hv]
  rfl

end Json

end CrossVenue
