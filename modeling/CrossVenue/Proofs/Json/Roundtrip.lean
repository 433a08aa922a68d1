import CrossVenue.Proofs.Json.Number

/-!
# Values read back

A value without floating-point numbers is read back from its compact text once its integers can be
written, its objects do not name a field twice and it is not nested too deep.
What is read is the value with the pairs of halves in its texts joined, which is the value itself when
all its texts are plain.

* `readValue_chars` : the reader inverts the writer, with enough fuel and room;
* `readPoints_chars` : and so does the reader of whole texts.
-/

set_option autoImplicit false

namespace CrossVenue.Json

mutual

/-- The value with the pairs of halves in its texts joined. -/
def rejoined : Json → Json
  | .str s => .str s.rejoined
  | .arr items => .arr (rejoinedItems items)
  | .obj fields => .obj (rejoinedFields fields)
  | v => v

/-- The items with the pairs of halves in their texts joined. -/
def rejoinedItems : List Json → List Json
  | [] => []
  | v :: rest => rejoined v :: rejoinedItems rest

/-- The fields with the pairs of halves in their names and values joined. -/
def rejoinedFields : List (Text × Json) → Fields
  | [] => []
  | (name, v) :: rest => (name.rejoined, rejoined v) :: rejoinedFields rest

end

mutual

/-- Can a value be read back by a reader that has room for so many levels? -/
def IsReadable : Json → Nat → Prop
  | .int n, _ => Number.isWritable n = true
  | .float _, _ => False
  | .arr items, room => 0 < room ∧ AreReadable items (room - 1)
  | .obj fields, room =>
    0 < room ∧ (fields.map fun p => p.1.rejoined).Nodup ∧ HaveReadable fields (room - 1)
  | _, _ => True

/-- Can all items be read back? -/
def AreReadable : List Json → Nat → Prop
  | [], _ => True
  | v :: rest, room => IsReadable v room ∧ AreReadable rest room

/-- Can the values of all fields be read back? -/
def HaveReadable : List (Text × Json) → Nat → Prop
  | [], _ => True
  | (_, v) :: rest, room => IsReadable v room ∧ HaveReadable rest room

end

/-! ## Where a value starts -/

/-- A character that begins a value: no blank, and no bracket that closes. -/
def Starts (c : Char) : Prop :=
  isGap (.char c) = false ∧ c ≠ ']' ∧ c ≠ '\x7d'

theorem starts_of_isDigit {c : Char} (h : c.isDigit = true) : Starts c := by
  refine ⟨?_, ?_, ?_⟩
  · simp only [isGap, Bool.or_eq_false_iff, decide_eq_false_iff_not]
    refine ⟨⟨⟨?_, ?_⟩, ?_⟩, ?_⟩ <;> (intro heq; cases heq; revert h; decide)
  · rintro rfl; revert h; decide
  · rintro rfl; revert h; decide

/-- An integer begins with a minus or a digit. -/
theorem int_start (n : Int) :
    ∃ c cs, (toString n).toList = c :: cs ∧ (c = '-' ∨ c.isDigit = true) := by
  obtain ⟨c, cs, hcs⟩ : ∃ c cs, Nat.toDigits 10 n.natAbs = c :: cs :=
    List.exists_cons_of_ne_nil Nat.toDigits_ne_nil
  have hc : c.isDigit = true := Text.isDigit_of_mem (n := n.natAbs) (by rw [hcs]; simp)
  rw [toString_int_eq, hcs]
  split
  · exact ⟨c, cs, rfl, .inr hc⟩
  · exact ⟨'-', c :: cs, rfl, .inl rfl⟩

/-- An integer is written with digits, and a minus. -/
theorem int_chars (n : Int) : ∀ c ∈ (toString n).toList, c = '-' ∨ c.isDigit = true := by
  intro c hc
  rw [toString_int_eq] at hc
  split at hc
  · exact .inr (Text.isDigit_of_mem hc)
  · exact (List.mem_cons.1 hc).imp_right Text.isDigit_of_mem

theorem chars_start {v : Json} {room : Nat} (h : v.IsReadable room) :
    ∃ c cs, v.chars = c :: cs ∧ Starts c := by
  cases v with
  | null => exact ⟨'n', _, rfl, by decide, by decide, by decide⟩
  | bool b =>
    cases b with
    | false => exact ⟨'f', _, rfl, by decide, by decide, by decide⟩
    | true => exact ⟨'t', _, rfl, by decide, by decide, by decide⟩
  | int n =>
    obtain ⟨c, cs, hcs, rfl | hc⟩ := int_start n
    · exact ⟨'-', cs, hcs, by decide, by decide, by decide⟩
    · exact ⟨c, cs, hcs, starts_of_isDigit hc⟩
  | float x => exact absurd h (by simp [IsReadable])
  | str s => exact ⟨'\"', _, rfl, by decide, by decide, by decide⟩
  | arr items => exact ⟨'[', _, rfl, by decide, by decide, by decide⟩
  | obj fields => exact ⟨'\x7b', _, rfl, by decide, by decide, by decide⟩

theorem skipGaps_of_starts {c : Char} (h : Starts c) (ps : List CodePoint) :
    skipGaps (.char c :: ps) = .char c :: ps := by
  simp [skipGaps, h.1]

/-! ## One level -/

theorem readValue_scalar {c : Char} (h : c ≠ '\"' ∧ c ≠ '[' ∧ c ≠ '\x7b') (fuel room : Nat)
    (ps : List CodePoint) :
    readValue (fuel + 1) room (.char c :: ps) = readScalar (.char c :: ps) := by
  rw [readValue.eq_def]
  simp only [CodePoint.char.injEq]
  rw [if_neg h.1, if_neg h.2.1, if_neg h.2.2]

theorem readValue_text (s : Text) (fuel room : Nat) (rest : List CodePoint) :
    readValue (fuel + 1) room (points (writtenText s) ++ rest) = .ok (.str s.rejoined, rest) := by
  obtain ⟨body, hb, hr⟩ := readText_writtenText s rest
  rw [hb, readValue.eq_def]
  simp only [if_true, hr]
  rfl

theorem readValue_noItems (fuel room : Nat) (rest : List CodePoint) :
    readValue (fuel + 1) (room + 1) (.char '[' :: .char ']' :: rest) = .ok (.arr [], rest) := by
  rw [readValue.eq_def]
  rfl

theorem readValue_noFields (fuel room : Nat) (rest : List CodePoint) :
    readValue (fuel + 1) (room + 1) (.char '\x7b' :: .char '\x7d' :: rest) = .ok (.obj [], rest) := by
  rw [readValue.eq_def]
  rfl

theorem readValue_items {c : Char} (h : Starts c) (fuel room : Nat) (ps : List CodePoint) :
    readValue (fuel + 1) (room + 1) (.char '[' :: .char c :: ps) =
      (readItems fuel room (.char c :: ps)).map fun r => (.arr r.1, r.2) := by
  rw [readValue.eq_def]
  simp only [CodePoint.char.injEq, Char.reduceEq, if_false, if_true, skipGaps_of_starts h]
  split
  · rename_i heq
    cases heq
    exact absurd rfl h.2.1
  · rfl

theorem readValue_fields {c : Char} (h : Starts c) (fuel room : Nat) (ps : List CodePoint) :
    readValue (fuel + 1) (room + 1) (.char '\x7b' :: .char c :: ps) =
      (readFields fuel room [] (.char c :: ps)).map fun r => (.obj r.1, r.2) := by
  rw [readValue.eq_def]
  simp only [CodePoint.char.injEq, Char.reduceEq, if_false, if_true, skipGaps_of_starts h]
  split
  · rename_i heq
    cases heq
    exact absurd rfl h.2.2
  · rfl

/-- No blank stands in front of a value. -/
theorem skipGaps_chars {v : Json} {room : Nat} (hv : v.IsReadable room) (rest : List CodePoint) :
    skipGaps (points v.chars ++ rest) = points v.chars ++ rest := by
  obtain ⟨c, cs, hc, hs⟩ := chars_start hv
  rw [hc]
  exact skipGaps_of_starts hs _

/-- A field is read as its value is. -/
theorem readField_written (name : Text) {v : Json} {room : Nat} (hv : v.IsReadable room)
    (fuel room' : Nat) (rest : List CodePoint) :
    readField (fuel + 1) room' (points (writtenText name ++ ':' :: v.chars) ++ rest) =
      (readValue fuel room' (points v.chars ++ rest)).map fun r => ((name.rejoined, r.1), r.2) := by
  obtain ⟨body, hb, hr⟩ := readText_writtenText name (.char ':' :: (points v.chars ++ rest))
  have hcolon : skipGaps (.char ':' :: (points v.chars ++ rest)) =
      .char ':' :: (points v.chars ++ rest) := skipGaps_of_starts ⟨rfl, by decide, by decide⟩ _
  rw [points_append, List.append_assoc, points_cons, List.cons_append, hb]
  rw [readField.eq_def]
  simp only [hr, hcolon, skipGaps_chars hv]

/-- A field whose value is read. -/
theorem readField_of_readValue (name : Text) {v w : Json} {room fuel : Nat}
    {rest : List CodePoint} (hv : v.IsReadable room)
    (h : readValue fuel room (points v.chars ++ rest) = .ok (w, rest)) :
    readField (fuel + 1) room (points (writtenText name ++ ':' :: v.chars) ++ rest) =
      .ok ((name.rejoined, w), rest) := by
  rw [readField_written name hv, h]
  rfl

theorem readItems_last {ps rest : List CodePoint} {w : Json} {fuel room : Nat}
    (h : readValue fuel room ps = .ok (w, .char ']' :: rest)) :
    readItems (fuel + 1) room ps = .ok ([w], rest) := by
  have hgap : skipGaps (.char ']' :: rest) = .char ']' :: rest := rfl
  rw [readItems.eq_def]
  simp only [h, hgap]

theorem readItems_more {ps rest : List CodePoint} {c : Char} {w : Json} {fuel room : Nat}
    (h : readValue fuel room ps = .ok (w, .char ',' :: .char c :: rest)) (hc : Starts c) :
    readItems (fuel + 1) room ps =
      (readItems fuel room (.char c :: rest)).map fun r => (w :: r.1, r.2) := by
  have hgap : ∀ qs, skipGaps (.char ',' :: qs) = .char ',' :: qs := fun _ => rfl
  rw [readItems.eq_def]
  simp only [h, hgap, skipGaps_of_starts hc]

theorem readFields_last {ps rest : List CodePoint} {before : Fields} {name : Text} {w : Json}
    {fuel room : Nat} (h : readField fuel room ps = .ok ((name, w), .char '\x7d' :: rest)) :
    readFields (fuel + 1) room before ps = .ok (before.set name w, rest) := by
  have hgap : skipGaps (.char '\x7d' :: rest) = .char '\x7d' :: rest := rfl
  rw [readFields.eq_def]
  simp only [h, hgap]

theorem readFields_more {ps rest : List CodePoint} {c : Char} {before : Fields} {name : Text}
    {w : Json} {fuel room : Nat}
    (h : readField fuel room ps = .ok ((name, w), .char ',' :: .char c :: rest)) (hc : Starts c) :
    readFields (fuel + 1) room before ps =
      readFields fuel room (before.set name w) (.char c :: rest) := by
  have hgap : ∀ qs, skipGaps (.char ',' :: qs) = .char ',' :: qs := fun _ => rfl
  rw [readFields.eq_def]
  simp only [h, hgap, skipGaps_of_starts hc]

/-! ## Every level -/

theorem exists_fuel {v : Json} {room fuel : Nat} (hv : v.IsReadable room)
    (h : 2 * v.chars.length ≤ fuel) : ∃ n, fuel = n + 1 := by
  obtain ⟨c, cs, hc, -⟩ := chars_start hv
  rw [hc, List.length_cons] at h
  exact ⟨fuel - 1, by omega⟩

theorem itemChars_start {v : Json} {room : Nat} (h : v.IsReadable room) (items : List Json) :
    ∃ c cs, itemChars (v :: items) = c :: cs ∧ Starts c := by
  obtain ⟨c, cs, hc, hs⟩ := chars_start h
  cases items with
  | nil => exact ⟨c, cs, hc, hs⟩
  | cons w rest => exact ⟨c, cs ++ ',' :: itemChars (w :: rest), by rw [itemChars, hc]; rfl, hs⟩

theorem fieldChars_start (name : Text) (v : Json) (fields : List (Text × Json)) :
    ∃ cs, fieldChars ((name, v) :: fields) = '\"' :: cs := by
  cases fields with
  | nil => exact ⟨_, rfl⟩
  | cons p rest => exact ⟨_, rfl⟩

mutual

/-- **The reader inverts the writer.**  Fuel of twice the length of the text is enough. -/
theorem readValue_chars : ∀ (v : Json) (room fuel : Nat) (rest : List CodePoint),
    v.IsReadable room → 2 * v.chars.length ≤ fuel → Ends rest →
      readValue fuel room (points v.chars ++ rest) = .ok (v.rejoined, rest)
  | .null, room, fuel, rest, hv, hf, _ => by
    obtain ⟨fuel, rfl⟩ := exists_fuel hv hf
    have hw := readScalar_word (w := ("null", .null)) (by simp [words]) rest
    exact (readValue_scalar (by decide) _ _ _).trans hw
  | .bool true, room, fuel, rest, hv, hf, _ => by
    obtain ⟨fuel, rfl⟩ := exists_fuel hv hf
    have hw := readScalar_word (w := ("true", .bool true)) (by simp [words]) rest
    exact (readValue_scalar (by decide) _ _ _).trans hw
  | .bool false, room, fuel, rest, hv, hf, _ => by
    obtain ⟨fuel, rfl⟩ := exists_fuel hv hf
    have hw := readScalar_word (w := ("false", .bool false)) (by simp [words]) rest
    exact (readValue_scalar (by decide) _ _ _).trans hw
  | .int n, room, fuel, rest, hv, hf, hr => by
    obtain ⟨fuel, rfl⟩ := exists_fuel hv hf
    have hi := readScalar_int hv hr
    obtain ⟨c, cs, hcs, hc⟩ := int_start n
    have hne : c ≠ '\"' ∧ c ≠ '[' ∧ c ≠ '\x7b' := by
      refine ⟨?_, ?_, ?_⟩ <;> (rintro rfl; revert hc; decide)
    rw [hcs] at hi
    rw [chars, hcs]
    exact (readValue_scalar hne _ _ _).trans hi
  | .float x, room, fuel, rest, hv, _, _ => absurd hv (by simp [IsReadable])
  | .str s, room, fuel, rest, hv, hf, _ => by
    obtain ⟨fuel, rfl⟩ := exists_fuel hv hf
    exact readValue_text s fuel room rest
  | .arr [], room, fuel, rest, hv, hf, _ => by
    obtain ⟨fuel, rfl⟩ := exists_fuel hv hf
    obtain ⟨room, rfl⟩ : ∃ n, room = n + 1 := ⟨room - 1, by have := hv.1; omega⟩
    exact readValue_noItems fuel room rest
  | .arr (v :: items), room, fuel, rest, hv, hf, _ => by
    obtain ⟨fuel, rfl⟩ := exists_fuel hv hf
    obtain ⟨room, rfl⟩ : ∃ n, room = n + 1 := ⟨room - 1, by have := hv.1; omega⟩
    simp only [IsReadable, Nat.add_sub_cancel] at hv
    simp only [chars, List.length_append, List.length_cons, List.length_nil] at hf
    have hitems := readItems_chars (v :: items) room fuel rest (by simp) hv.2 (by omega)
    obtain ⟨c, cs, hc, hs⟩ := itemChars_start hv.2.1 items
    simp only [chars, hc, points_append, points_cons, List.cons_append, List.append_assoc,
      points_nil, List.nil_append] at hitems ⊢
    rw [readValue_items hs, hitems]
    rfl
  | .obj [], room, fuel, rest, hv, hf, _ => by
    obtain ⟨fuel, rfl⟩ := exists_fuel hv hf
    obtain ⟨room, rfl⟩ : ∃ n, room = n + 1 := ⟨room - 1, by have := hv.1; omega⟩
    exact readValue_noFields fuel room rest
  | .obj ((name, v) :: fields), room, fuel, rest, hv, hf, _ => by
    obtain ⟨fuel, rfl⟩ := exists_fuel hv hf
    obtain ⟨room, rfl⟩ : ∃ n, room = n + 1 := ⟨room - 1, by have := hv.1; omega⟩
    simp only [IsReadable, Nat.add_sub_cancel] at hv
    simp only [chars, List.length_append, List.length_cons, List.length_nil] at hf
    have hfields := readFields_chars ((name, v) :: fields) room fuel [] rest (by simp)
      hv.2.2 (by simpa using hv.2.1) (by omega)
    obtain ⟨cs, hc⟩ := fieldChars_start name v fields
    simp only [chars, hc, points_append, points_cons, List.cons_append, List.append_assoc,
      points_nil, List.nil_append] at hfields ⊢
    rw [readValue_fields ⟨rfl, by decide, by decide⟩, hfields]
    rfl

theorem readItems_chars : ∀ (items : List Json) (room fuel : Nat) (rest : List CodePoint),
    items ≠ [] → AreReadable items room → 2 * (itemChars items).length + 1 ≤ fuel →
      readItems fuel room (points (itemChars items) ++ .char ']' :: rest) =
        .ok (rejoinedItems items, rest)
  | [], _, _, _, hne, _, _ => absurd rfl hne
  | [v], room, fuel + 1, rest, _, hv, hf => by
    simp only [itemChars] at hf ⊢
    have h := readValue_chars v room fuel (.char ']' :: rest) hv.1 (by omega)
      (ends_cons (by decide) _)
    exact readItems_last h
  | v :: w :: items, room, fuel + 1, rest, _, hv, hf => by
    simp only [itemChars, List.length_append, List.length_cons] at hf
    obtain ⟨c, cs, hc, hs⟩ := itemChars_start hv.2.1 items
    have h := readValue_chars v room fuel
      (.char ',' :: (points (itemChars (w :: items)) ++ .char ']' :: rest)) hv.1 (by omega)
      (ends_cons (by decide) _)
    have hitems := readItems_chars (w :: items) room fuel rest (by simp) hv.2 (by omega)
    rw [hc] at h hitems
    rw [itemChars, hc]
    simp only [points_append, points_cons, List.cons_append, List.append_assoc] at h hitems ⊢
    rw [readItems_more h hs, hitems]
    rfl

theorem readFields_chars : ∀ (fields : List (Text × Json)) (room fuel : Nat) (before : Fields)
    (rest : List CodePoint), fields ≠ [] → HaveReadable fields room →
      (before.map (·.1) ++ fields.map fun p => p.1.rejoined).Nodup →
      2 * (fieldChars fields).length + 1 ≤ fuel →
        readFields fuel room before (points (fieldChars fields) ++ .char '\x7d' :: rest) =
          .ok (before ++ rejoinedFields fields, rest)
  | [], _, _, _, _, hne, _, _, _ => absurd rfl hne
  | [(name, v)], room, fuel + 2, before, rest, _, hv, hn, hf => by
    simp only [fieldChars, List.length_append, List.length_cons] at hf ⊢
    have h := readValue_chars v room fuel (.char '\x7d' :: rest) hv.1 (by omega)
      (ends_cons (by decide) _)
    have hname : name.rejoined ∉ before.map (·.1) := by
      rw [List.nodup_append] at hn
      exact fun hm => hn.2.2 _ hm _ (by simp) rfl
    rw [readFields_last (readField_of_readValue name hv.1 h), Table.set_of_not_mem hname]
    rfl
  | (name, v) :: (name', v') :: fields, room, fuel + 2, before, rest, _, hv, hn, hf => by
    simp only [fieldChars, List.length_append, List.length_cons] at hf
    obtain ⟨cs, hc⟩ := fieldChars_start name' v' fields
    have h := readValue_chars v room fuel
      (.char ',' :: (points (fieldChars ((name', v') :: fields)) ++ .char '\x7d' :: rest)) hv.1
      (by omega) (ends_cons (by decide) _)
    have hfield := readField_of_readValue name hv.1 h
    have hname : name.rejoined ∉ before.map (·.1) := by
      rw [List.nodup_append] at hn
      exact fun hm => hn.2.2 _ hm _ (by simp) rfl
    have hfields := readFields_chars ((name', v') :: fields) room (fuel + 1)
      (before ++ [(name.rejoined, v.rejoined)]) rest (by simp) hv.2 (by simpa using hn) (by omega)
    rw [hc] at hfield hfields
    rw [fieldChars, hc]
    simp only [points_append, points_cons, List.cons_append, List.append_assoc] at hfield hfields ⊢
    rw [readFields_more hfield ⟨rfl, by decide, by decide⟩, Table.set_of_not_mem hname, hfields]
    rfl
  | [(_, _)], _, 0, _, _, _, _, _, hf => by omega
  | [(_, _)], _, 1, _, _, _, _, _, hf => by simp [fieldChars, writtenText] at hf
  | (_, _) :: (_, _) :: _, _, 0, _, _, _, _, _, hf => by omega
  | (_, _) :: (_, _) :: _, _, 1, _, _, _, _, _, hf => by simp [fieldChars, writtenText] at hf

end

/-- A whole text is read as the value that it is. -/
theorem readPoints_eq {v : Json} {enough : Nat} (hv : v.IsReadable enough) (room : Room) :
    readPoints room (points v.chars) =
      (readValue (2 * v.chars.length + 2) room.levels (points v.chars)).bind fun r =>
        if (skipGaps r.2).isEmpty then .ok r.1 else flawAt .somethingFollows (skipGaps r.2) := by
  have hlen : (points v.chars).length = v.chars.length := List.length_map _
  have hgap := skipGaps_chars hv []
  rw [List.append_nil] at hgap
  simp only [readPoints, hgap, hlen]
  rfl

/-- A whole text is read back. -/
theorem readPoints_chars {v : Json} {room : Room} (hv : v.IsReadable room.levels) :
    readPoints room (points v.chars) = .ok v.rejoined := by
  have h := readValue_chars v room.levels (2 * v.chars.length + 2) [] hv (by omega) ends_nil
  rw [List.append_nil] at h
  rw [readPoints_eq hv room, h]
  rfl

end CrossVenue.Json
