import CrossVenue.Proofs.Json.Compact
import CrossVenue.Proofs.Json.Depth
import CrossVenue.Proofs.Json.Parts
import CrossVenue.Proofs.Text.Plain

/-!
# Payloads

A payload is a value that its compact text tells all about: its integers can be written, its texts are
plain, its objects do not name a field twice, and it has no floating-point numbers.

* `isPayload` : which values are payloads;
* `rejoined_of_isPayload` : nothing in a payload is joined;
* `Encodes`, `encodes_of_isPayload` : what the bytes of a payload are, and what they are read as.
-/

set_option autoImplicit false

namespace CrossVenue.Json

/-- Is a value made of null, truth values, integers that can be written, plain texts, lists, and objects
that name every field once? -/
def isPayload : Json → Bool :=
  every fun
    | .int n => Number.isWritable n
    | .float _ => false
    | .str s => s.isPlain
    | .obj fields => decide (fields.map (·.1)).Nodup
    | _ => true

theorem isPayload_int (n : Int) : (int n).isPayload = Number.isWritable n := by
  simp only [isPayload, every]

theorem isPayload_float (x : Binary64) : (float x).isPayload = false := by
  simp only [isPayload, every]

theorem isPayload_str (s : Text) : (str s).isPayload = s.isPlain := by
  simp only [isPayload, every]

theorem isPayload_arr_iff {items : List Json} :
    (arr items).isPayload = true ↔ ∀ v ∈ items, v.isPayload = true := by
  simp only [isPayload, every_arr_iff, true_and]

theorem isPayload_obj_iff {fields : List (Text × Json)} :
    (obj fields).isPayload = true ↔ (fields.map (·.1)).Nodup ∧
      ∀ p ∈ fields, p.1.isPlain = true ∧ p.2.isPayload = true := by
  simp only [isPayload, every_obj_iff, decide_eq_true_eq]

/-! ## Reading payloads -/

/-- Plain names are kept. -/
theorem names_rejoined {fields : List (Text × Json)} (h : ∀ p ∈ fields, p.1.isPlain = true) :
    (fields.map fun p => p.1.rejoined) = fields.map (·.1) :=
  List.map_congr_left fun p hp => Text.rejoined_of_isPlain (h p hp)

mutual

/-- **Payloads are read back**, given room for their depth. -/
theorem isReadable_of_isPayload : ∀ (v : Json) (room : Nat), v.isPayload = true → v.depth ≤ room →
    v.IsReadable room
  | .null, _ => fun _ _ => trivial
  | .bool _, _ => fun _ _ => trivial
  | .int n, _ => fun h _ => (isPayload_int n).symm.trans h
  | .float x, _ => fun h _ => absurd h (by rw [isPayload_float]; decide)
  | .str _, _ => fun _ _ => trivial
  | .arr items, room => by
    rw [depth, isPayload_arr_iff]
    intro h hd
    exact ⟨by omega, areReadable_of_isPayload items (room - 1) h (by omega)⟩
  | .obj fields, room => by
    rw [depth, isPayload_obj_iff]
    rintro ⟨hnodup, hfields⟩ hd
    refine ⟨by omega, ?_, haveReadable_of_isPayload fields (room - 1) hfields (by omega)⟩
    rw [names_rejoined fun p hp => (hfields p hp).1]
    exact hnodup

theorem areReadable_of_isPayload : ∀ (items : List Json) (room : Nat),
    (∀ v ∈ items, v.isPayload = true) → itemsDepth items ≤ room → AreReadable items room
  | [], _ => fun _ _ => trivial
  | v :: items, room => by
    rw [itemsDepth, List.forall_mem_cons]
    rintro ⟨hv, hitems⟩ hd
    exact ⟨isReadable_of_isPayload v room hv (by omega),
      areReadable_of_isPayload items room hitems (by omega)⟩

theorem haveReadable_of_isPayload : ∀ (fields : List (Text × Json)) (room : Nat),
    (∀ p ∈ fields, p.1.isPlain = true ∧ p.2.isPayload = true) → fieldsDepth fields ≤ room →
      HaveReadable fields room
  | [], _ => fun _ _ => trivial
  | (_, v) :: fields, room => by
    rw [fieldsDepth, List.forall_mem_cons]
    rintro ⟨hv, hfields⟩ hd
    exact ⟨isReadable_of_isPayload v room hv.2 (by omega),
      haveReadable_of_isPayload fields room hfields (by omega)⟩

end

mutual

/-- **Nothing in a payload is joined.** -/
theorem rejoined_of_isPayload : ∀ v : Json, v.isPayload = true → v.rejoined = v
  | .null => fun _ => rfl
  | .bool _ => fun _ => rfl
  | .int _ => fun _ => rfl
  | .float _ => fun _ => rfl
  | .str s => by
    rw [isPayload_str]
    intro h
    rw [rejoined, Text.rejoined_of_isPlain h]
  | .arr items => by
    rw [isPayload_arr_iff]
    intro h
    rw [rejoined, rejoinedItems_of_isPayload items h]
  | .obj fields => by
    rw [isPayload_obj_iff]
    rintro ⟨-, h⟩
    rw [rejoined, rejoinedFields_of_isPayload fields h]

theorem rejoinedItems_of_isPayload : ∀ items : List Json, (∀ v ∈ items, v.isPayload = true) →
    rejoinedItems items = items
  | [] => fun _ => rfl
  | v :: items => by
    rw [List.forall_mem_cons]
    rintro ⟨hv, hitems⟩
    rw [rejoinedItems, rejoined_of_isPayload v hv, rejoinedItems_of_isPayload items hitems]

theorem rejoinedFields_of_isPayload : ∀ fields : List (Text × Json),
    (∀ p ∈ fields, p.1.isPlain = true ∧ p.2.isPayload = true) → rejoinedFields fields = fields
  | [] => fun _ => rfl
  | (name, v) :: fields => by
    rw [List.forall_mem_cons]
    rintro ⟨hv, hfields⟩
    rw [rejoinedFields, Text.rejoined_of_isPlain hv.1, rejoined_of_isPayload v hv.2,
      rejoinedFields_of_isPayload fields hfields]

end

/-! ## Payloads in bytes -/

theorem isWritable_of_isPayload {v : Json} (h : v.isPayload = true) : v.isWritable = true := by
  refine every_mono (fun w hw => ?_) v h
  cases w <;> simp_all

/-- What the bytes of a payload are. -/
structure Encodes (v : Json) : Prop where
  /-- They are printable ASCII characters, -/
  ascii : ∀ b ∈ v.encode, 0x20 ≤ b ∧ b < 0x7F
  /-- and the text of these is the compact text, -/
  text : Unicode.decode? v.encode = some (Text.ofString v.write)
  /-- in which no blank stands outside of strings. -/
  compact : ∀ c ∈ bare .outside v.write.toList, isGap c = false
  /-- They are written if there is room for the lists and objects in each other, -/
  write : ∀ room : Room, v.encodeIn room = if v.depth ≤ room.levels then .ok v.encode else .error .tooDeep
  /-- and read as the payload, its fields in order, if there is. -/
  read : ∀ room : Room, readBytes room v.encode =
    if v.depth ≤ room.levels then .ok v else .error (.notRead .tooDeep)

/-- **A payload is what its bytes are read as**, given room for its depth. -/
theorem encodes_of_isPayload {v : Json} (h : v.isPayload = true) : v.Encodes := by
  have hv := isReadable_of_isPayload v v.depth h (Nat.le_refl _)
  have hprintable := chars_printable v v.depth hv
  have hwrite : v.write.toList = v.chars := String.toList_ofList
  refine ⟨?_, ?_, ?_, encodeIn_eq (isWritable_of_isPayload h), fun room => ?_⟩
  · intro b hb
    obtain ⟨c, hc, rfl⟩ := List.mem_map.1 hb
    have hbyte := byte_toNat (hprintable c hc)
    obtain ⟨h1, h2⟩ := hprintable c hc
    rw [UInt8.le_iff_toNat_le, UInt8.lt_iff_toNat_lt, hbyte]
    exact ⟨h1, h2⟩
  · rw [encode, decode?_printable hprintable, Text.ofString, hwrite]
    rfl
  · rw [hwrite]
    exact (chars_tidy v v.depth hv).2
  · rw [readBytes_encode_eq hv room, rejoined_of_isPayload v h]

end CrossVenue.Json
