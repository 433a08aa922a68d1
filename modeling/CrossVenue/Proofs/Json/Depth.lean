import CrossVenue.Proofs.Json.Bytes
import CrossVenue.Proofs.Json.Parts

/-!
# Values that are nested too deep

A value is written as long as the writer has room for its lists and objects, and read back as long as the
reader has.  Where either has no room, it says so: all that stands before the first bracket without room is
written or read, so no other fault comes first.

* `depth` : how many lists and objects stand inside each other;
* `isReadable_of_depth_le` : room for the depth is room enough;
* `readValue_tooDeep` : less room is too little, for the reader of values;
* `readBytes_encode_eq` : what the bytes of a value are read as, whatever its depth;
* `encodeIn_eq` : what bytes a value is written as, whatever its depth.
-/

set_option autoImplicit false

namespace CrossVenue.Json

mutual

/-- How many lists and objects stand inside each other. -/
def depth : Json → Nat
  | .arr items => itemsDepth items + 1
  | .obj fields => fieldsDepth fields + 1
  | _ => 0

/-- The depth of the deepest item. -/
def itemsDepth : List Json → Nat
  | [] => 0
  | v :: rest => max v.depth (itemsDepth rest)

/-- The depth of the deepest value of a field. -/
def fieldsDepth : List (Text × Json) → Nat
  | [] => 0
  | (_, v) :: rest => max v.depth (fieldsDepth rest)

end

/-! ## Room enough -/

mutual

theorem isReadable_of_depth_le : ∀ (v : Json) {room more : Nat}, v.IsReadable more → v.depth ≤ room →
    v.IsReadable room
  | .null, _, _, _, _ => trivial
  | .bool _, _, _, _, _ => trivial
  | .int _, _, _, h, _ => h
  | .float _, _, _, h, _ => h
  | .str _, _, _, _, _ => trivial
  | .arr items, room, more, h, hd => by
    rw [depth] at hd
    exact ⟨by omega, areReadable_of_depth_le items h.2 (by omega)⟩
  | .obj fields, room, more, h, hd => by
    rw [depth] at hd
    exact ⟨by omega, h.2.1, haveReadable_of_depth_le fields h.2.2 (by omega)⟩

theorem areReadable_of_depth_le : ∀ (items : List Json) {room more : Nat}, AreReadable items more →
    itemsDepth items ≤ room → AreReadable items room
  | [], _, _, _, _ => trivial
  | v :: items, room, more, h, hd => by
    rw [itemsDepth] at hd
    exact ⟨isReadable_of_depth_le v h.1 (by omega), areReadable_of_depth_le items h.2 (by omega)⟩

theorem haveReadable_of_depth_le : ∀ (fields : List (Text × Json)) {room more : Nat},
    HaveReadable fields more → fieldsDepth fields ≤ room → HaveReadable fields room
  | [], _, _, _, _ => trivial
  | (_, v) :: fields, room, more, h, hd => by
    rw [fieldsDepth] at hd
    exact ⟨isReadable_of_depth_le v h.1 (by omega), haveReadable_of_depth_le fields h.2 (by omega)⟩

end

/-! ## Too little room, at one level -/

theorem readValue_noRoom {c : Char} (h : c = '[' ∨ c = '\x7b') (fuel : Nat) (ps : List CodePoint) :
    readValue (fuel + 1) 0 (.char c :: ps) = .error .tooDeep := by
  rw [readValue.eq_def]
  rcases h with rfl | rfl <;> rfl

theorem readItems_of_error {ps : List CodePoint} {fuel room : Nat} {fault : Fault}
    (h : readValue fuel room ps = .error fault) : readItems (fuel + 1) room ps = .error fault := by
  rw [readItems.eq_def]
  simp only [h]

theorem readFields_of_error {ps : List CodePoint} {before : Fields} {fuel room : Nat} {fault : Fault}
    (h : readField fuel room ps = .error fault) :
    readFields (fuel + 1) room before ps = .error fault := by
  rw [readFields.eq_def]
  simp only [h]

/-- A field fails as its value does. -/
theorem readField_of_error (name : Text) {v : Json} {room more fuel : Nat} {rest : List CodePoint}
    {fault : Fault} (hv : v.IsReadable more)
    (h : readValue fuel room (points v.chars ++ rest) = .error fault) :
    readField (fuel + 1) room (points (writtenText name ++ ':' :: v.chars) ++ rest) = .error fault := by
  rw [readField_written name hv, h]
  rfl

/-! ## Too little room, at every level -/

mutual

/-- **The reader finds out that it has no room**, and finds no other fault. -/
theorem readValue_tooDeep : ∀ (v : Json) (room more fuel : Nat) (rest : List CodePoint),
    v.IsReadable more → room < v.depth → 2 * v.chars.length ≤ fuel →
      readValue fuel room (points v.chars ++ rest) = .error .tooDeep
  | .null, _, _, _, _, _, hd, _ => absurd hd (Nat.not_lt_zero _)
  | .bool _, _, _, _, _, _, hd, _ => absurd hd (Nat.not_lt_zero _)
  | .int _, _, _, _, _, _, hd, _ => absurd hd (Nat.not_lt_zero _)
  | .float _, _, _, _, _, _, hd, _ => absurd hd (Nat.not_lt_zero _)
  | .str _, _, _, _, _, _, hd, _ => absurd hd (Nat.not_lt_zero _)
  | .arr [], _ + 1, _, _, _, _, hd, _ => absurd (Nat.lt_of_succ_lt_succ hd) (Nat.not_lt_zero _)
  | .obj [], _ + 1, _, _, _, _, hd, _ => absurd (Nat.lt_of_succ_lt_succ hd) (Nat.not_lt_zero _)
  | .arr items, 0, more, fuel, rest, hv, _, hf => by
    obtain ⟨fuel, rfl⟩ := exists_fuel hv hf
    exact readValue_noRoom (.inl rfl) _ _
  | .obj fields, 0, more, fuel, rest, hv, _, hf => by
    obtain ⟨fuel, rfl⟩ := exists_fuel hv hf
    exact readValue_noRoom (.inr rfl) _ _
  | .arr (v :: items), room + 1, more, fuel, rest, hv, hd, hf => by
    obtain ⟨fuel, rfl⟩ := exists_fuel hv hf
    rw [depth] at hd
    simp only [chars, List.length_append, List.length_cons, List.length_nil] at hf
    have hitems := readItems_tooDeep (v :: items) room _ fuel rest hv.2 (by omega) (by omega)
    obtain ⟨c, cs, hc, hs⟩ := itemChars_start hv.2.1 items
    simp only [chars, hc, points_append, points_cons, List.cons_append, List.append_assoc,
      points_nil, List.nil_append] at hitems ⊢
    rw [readValue_items hs, hitems]
    rfl
  | .obj ((name, v) :: fields), room + 1, more, fuel, rest, hv, hd, hf => by
    obtain ⟨fuel, rfl⟩ := exists_fuel hv hf
    rw [depth] at hd
    simp only [chars, List.length_append, List.length_cons, List.length_nil] at hf
    have hfields := readFields_tooDeep ((name, v) :: fields) room _ fuel [] rest hv.2.2 (by omega)
      (by omega)
    obtain ⟨cs, hc⟩ := fieldChars_start name v fields
    simp only [chars, hc, points_append, points_cons, List.cons_append, List.append_assoc,
      points_nil, List.nil_append] at hfields ⊢
    rw [readValue_fields ⟨rfl, by decide, by decide⟩, hfields]
    rfl

theorem readItems_tooDeep : ∀ (items : List Json) (room more fuel : Nat) (rest : List CodePoint),
    AreReadable items more → room < itemsDepth items → 2 * (itemChars items).length + 1 ≤ fuel →
      readItems fuel room (points (itemChars items) ++ .char ']' :: rest) = .error .tooDeep
  | [], _, _, _, _, _, hd, _ => absurd hd (Nat.not_lt_zero _)
  | [v], room, more, fuel + 1, rest, hv, hd, hf => by
    simp only [itemsDepth] at hd
    simp only [itemChars] at hf ⊢
    exact readItems_of_error (readValue_tooDeep v room _ fuel _ hv.1 (by omega) (by omega))
  | v :: w :: items, room, more, fuel + 1, rest, hv, hd, hf => by
    rw [itemsDepth] at hd
    simp only [itemChars, List.length_append, List.length_cons] at hf
    by_cases hroom : v.depth ≤ room
    · -- the item itself is read, so a later one is too deep
      obtain ⟨c, cs, hc, hs⟩ := itemChars_start hv.2.1 items
      have h := readValue_chars v room fuel
        (.char ',' :: (points (itemChars (w :: items)) ++ .char ']' :: rest))
        (isReadable_of_depth_le v hv.1 hroom) (by omega) (ends_cons (by decide) _)
      have hitems := readItems_tooDeep (w :: items) room _ fuel rest hv.2 (by omega) (by omega)
      rw [hc] at h hitems
      rw [itemChars, hc]
      simp only [points_append, points_cons, List.cons_append, List.append_assoc] at h hitems ⊢
      rw [readItems_more h hs, hitems]
      rfl
    · rw [itemChars, points_append, List.append_assoc]
      exact readItems_of_error (readValue_tooDeep v room _ fuel _ hv.1 (by omega) (by omega))

theorem readFields_tooDeep : ∀ (fields : List (Text × Json)) (room more fuel : Nat) (before : Fields)
    (rest : List CodePoint), HaveReadable fields more → room < fieldsDepth fields →
      2 * (fieldChars fields).length + 1 ≤ fuel →
        readFields fuel room before (points (fieldChars fields) ++ .char '\x7d' :: rest) =
          .error .tooDeep
  | [], _, _, _, _, _, _, hd, _ => absurd hd (Nat.not_lt_zero _)
  | [(name, v)], room, more, fuel + 2, before, rest, hv, hd, hf => by
    simp only [fieldsDepth] at hd
    simp only [fieldChars, List.length_append, List.length_cons] at hf ⊢
    exact readFields_of_error (readField_of_error name hv.1
      (readValue_tooDeep v room _ fuel _ hv.1 (by omega) (by omega)))
  | (name, v) :: (name', v') :: fields, room, more, fuel + 2, before, rest, hv, hd, hf => by
    rw [fieldsDepth] at hd
    simp only [fieldChars, List.length_append, List.length_cons] at hf
    by_cases hroom : v.depth ≤ room
    · obtain ⟨cs, hc⟩ := fieldChars_start name' v' fields
      have hread := isReadable_of_depth_le v hv.1 hroom
      have h := readValue_chars v room fuel
        (.char ',' :: (points (fieldChars ((name', v') :: fields)) ++ .char '\x7d' :: rest)) hread
        (by omega) (ends_cons (by decide) _)
      have hfield := readField_of_readValue name hread h
      have hfields := readFields_tooDeep ((name', v') :: fields) room _ (fuel + 1)
        (before.set name.rejoined v.rejoined) rest hv.2 (by omega) (by omega)
      rw [hc] at hfield hfields
      rw [fieldChars, hc]
      simp only [points_append, points_cons, List.cons_append, List.append_assoc] at hfield hfields ⊢
      rw [readFields_more hfield ⟨rfl, by decide, by decide⟩, hfields]
    · rw [fieldChars, points_append, List.append_assoc]
      exact readFields_of_error (readField_of_error name hv.1
        (readValue_tooDeep v room _ fuel _ hv.1 (by omega) (by omega)))
  | [(_, _)], _, _, 0, _, _, _, _, hf => by omega
  | [(_, _)], _, _, 1, _, _, _, _, hf => by simp [fieldChars, writtenText] at hf
  | (_, _) :: (_, _) :: _, _, _, 0, _, _, _, _, hf => by omega
  | (_, _) :: (_, _) :: _, _, _, 1, _, _, _, _, hf => by simp [fieldChars, writtenText] at hf

end

/-- **What the bytes of a value are read as**, whatever its depth. -/
theorem readBytes_encode_eq {v : Json} {enough : Nat} (hv : v.IsReadable enough) (room : Room) :
    readBytes room v.encode =
      if v.depth ≤ room.levels then .ok v.rejoined else .error (.notRead .tooDeep) := by
  split
  · rename_i hd
    exact readBytes_encode (isReadable_of_depth_le v hv hd)
  · rename_i hd
    have h := readValue_tooDeep v room.levels enough (2 * v.chars.length + 2) [] hv (by omega)
      (by omega)
    rw [List.append_nil] at h
    rw [readBytes_eq hv room, readPoints_eq hv room, h]
    rfl

/-! ## Writing -/

mutual

theorem checkWritten_eq : ∀ (v : Json) (room : Nat), v.isWritable = true →
    checkWritten room v = if v.depth ≤ room then .ok () else .error .tooDeep
  | .null, _ => fun _ => by simp [checkWritten, depth]
  | .bool _, _ => fun _ => by simp [checkWritten, depth]
  | .float _, _ => fun _ => by simp [checkWritten, depth]
  | .str _, _ => fun _ => by simp [checkWritten, depth]
  | .int n, _ => fun h => by
    rw [isWritable_int] at h
    simp [checkWritten, depth, h]
  | .arr _, 0 => fun _ => by simp [checkWritten, depth]
  | .obj _, 0 => fun _ => by simp [checkWritten, depth]
  | .arr items, room + 1 => fun h => by
    rw [isWritable_arr_iff] at h
    simp only [checkWritten, depth, Nat.add_le_add_iff_right]
    exact checkItems_eq items room h
  | .obj fields, room + 1 => fun h => by
    rw [isWritable_obj_iff] at h
    simp only [checkWritten, depth, Nat.add_le_add_iff_right]
    exact checkFields_eq fields room h

theorem checkItems_eq : ∀ (items : List Json) (room : Nat), (∀ v ∈ items, v.isWritable = true) →
    checkItems room items = if itemsDepth items ≤ room then .ok () else .error .tooDeep
  | [], _ => fun _ => by simp [checkItems, itemsDepth]
  | v :: rest, room => fun h => by
    rw [List.forall_mem_cons] at h
    rw [checkItems, checkWritten_eq v room h.1, checkItems_eq rest room h.2, itemsDepth]
    by_cases hv : v.depth ≤ room
    · simp [hv, bind, Except.bind]
    · simp [hv, bind, Except.bind]

theorem checkFields_eq : ∀ (fields : List (Text × Json)) (room : Nat),
    (∀ p ∈ fields, p.2.isWritable = true) →
      checkFields room fields = if fieldsDepth fields ≤ room then .ok () else .error .tooDeep
  | [], _ => fun _ => by simp [checkFields, fieldsDepth]
  | (_, v) :: rest, room => fun h => by
    rw [List.forall_mem_cons] at h
    rw [checkFields, checkWritten_eq v room h.1, checkFields_eq rest room h.2, fieldsDepth]
    by_cases hv : v.depth ≤ room
    · simp [hv, bind, Except.bind]
    · simp [hv, bind, Except.bind]

end

/-- **What bytes a value is written as**, whatever its depth. -/
theorem encodeIn_eq {v : Json} (h : v.isWritable = true) (room : Room) :
    v.encodeIn room = if v.depth ≤ room.levels then .ok v.encode else .error .tooDeep := by
  rw [encodeIn, checkWritten_eq v room.levels h]
  split <;> rfl

mutual

theorem checkWritten_of_isReadable : ∀ (v : Json) (room : Nat), v.IsReadable room →
    checkWritten room v = .ok ()
  | .null, _ => fun _ => by simp [checkWritten]
  | .bool _, _ => fun _ => by simp [checkWritten]
  | .float _, _ => fun _ => by simp [checkWritten]
  | .str _, _ => fun _ => by simp [checkWritten]
  | .int n, _ => fun h => by
    have hn : Number.isWritable n = true := h
    simp [checkWritten, hn]
  | .arr _, 0 => fun h => absurd h.1 (Nat.lt_irrefl 0)
  | .obj _, 0 => fun h => absurd h.1 (Nat.lt_irrefl 0)
  | .arr items, room + 1 => fun h => by
    rw [checkWritten]
    exact checkItems_of_areReadable items room h.2
  | .obj fields, room + 1 => fun h => by
    rw [checkWritten]
    exact checkFields_of_haveReadable fields room h.2.2

theorem checkItems_of_areReadable : ∀ (items : List Json) (room : Nat), AreReadable items room →
    checkItems room items = .ok ()
  | [], _ => fun _ => by rw [checkItems]
  | v :: rest, room => fun h => by
    rw [checkItems, checkWritten_of_isReadable v room h.1, checkItems_of_areReadable rest room h.2]
    rfl

theorem checkFields_of_haveReadable : ∀ (fields : List (Text × Json)) (room : Nat),
    HaveReadable fields room → checkFields room fields = .ok ()
  | [], _ => fun _ => by rw [checkFields]
  | (_, v) :: rest, room => fun h => by
    rw [checkFields, checkWritten_of_isReadable v room h.1, checkFields_of_haveReadable rest room h.2]
    rfl

end

/-- What can be read back can be written. -/
theorem encodeIn_of_isReadable {v : Json} {room : Room} (h : v.IsReadable room.levels) :
    v.encodeIn room = .ok v.encode := by
  rw [encodeIn, checkWritten_of_isReadable v room.levels h]
  rfl

/-- What is written are the bytes of the value. -/
theorem eq_encode_of_encodeIn {v : Json} {room : Room} {bs : List UInt8} (h : v.encodeIn room = .ok bs) :
    bs = v.encode := by
  obtain ⟨_, -, rfl⟩ := map_eq_ok_iff.1 h
  rfl

end CrossVenue.Json
