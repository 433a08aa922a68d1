import CrossVenue.Json.Encoded
import CrossVenue.Json.Parts
import CrossVenue.Json.Shown
import CrossVenue.Proofs.Computation
import CrossVenue.Proofs.Encoding.Lengths
import CrossVenue.Proofs.Number.Short
import CrossVenue.Proofs.Text.Plain

/-!
# What is read is no longer than what it is read from

A value that is read has nothing in it that is longer than its text: no text, no list and no integer.

* `every_of_lookup`, `every_of_mem` : a test that all parts pass is passed by fields and items;
* `readsSmall` : how long the parts of what is read can be, for every reader of values;
* `isSmall_of_readBytes` : the same for values in bytes.
-/

set_option autoImplicit false

namespace CrossVenue

namespace Json

/-! ## Parts of parts -/

theorem everyItem_iff {test : Json → Bool} {items : List Json} :
    everyItem test items = true ↔ ∀ v ∈ items, v.every test = true := by
  induction items with
  | nil => simp [everyItem]
  | cons v rest ih => simp [everyItem, ih]

theorem everyField_iff {test : Json → Bool} {fields : List (Text × Json)} :
    everyField test fields = true ↔
      ∀ p ∈ fields, test (.str p.1) = true ∧ p.2.every test = true := by
  induction fields with
  | nil => simp [everyField]
  | cons p rest ih => simp [everyField, ih, and_assoc]

theorem every_arr_iff {test : Json → Bool} {items : List Json} :
    (arr items).every test = true ↔
      test (.arr items) = true ∧ ∀ v ∈ items, v.every test = true := by
  rw [every, Bool.and_eq_true, everyItem_iff]

theorem every_obj_iff {test : Json → Bool} {fields : List (Text × Json)} :
    (obj fields).every test = true ↔ test (.obj fields) = true ∧
      ∀ p ∈ fields, test (.str p.1) = true ∧ p.2.every test = true := by
  rw [every, Bool.and_eq_true, everyField_iff]

mutual

/-- What passes a test passes every weaker one. -/
theorem every_mono {test weaker : Json → Bool} (hw : ∀ v, test v = true → weaker v = true) :
    ∀ v : Json, v.every test = true → v.every weaker = true
  | .arr items, h => by
    rw [every, Bool.and_eq_true] at h ⊢
    exact ⟨hw _ h.1, everyItem_mono hw items h.2⟩
  | .obj fields, h => by
    rw [every, Bool.and_eq_true] at h ⊢
    exact ⟨hw _ h.1, everyField_mono hw fields h.2⟩
  | .null, h => hw _ h
  | .bool _, h => hw _ h
  | .int _, h => hw _ h
  | .float _, h => hw _ h
  | .str _, h => hw _ h

theorem everyItem_mono {test weaker : Json → Bool} (hw : ∀ v, test v = true → weaker v = true) :
    ∀ items : List Json, everyItem test items = true → everyItem weaker items = true
  | [], _ => rfl
  | v :: rest, h => by
    rw [everyItem, Bool.and_eq_true] at h ⊢
    exact ⟨every_mono hw v h.1, everyItem_mono hw rest h.2⟩

theorem everyField_mono {test weaker : Json → Bool} (hw : ∀ v, test v = true → weaker v = true) :
    ∀ fields : List (Text × Json), everyField test fields = true → everyField weaker fields = true
  | [], _ => rfl
  | (_, v) :: rest, h => by
    simp only [everyField, Bool.and_eq_true] at h ⊢
    exact ⟨⟨hw _ h.1.1, every_mono hw v h.1.2⟩, everyField_mono hw rest h.2⟩

end

theorem every_of_mem {test : Json → Bool} {items : List Json} {v : Json}
    (h : (arr items).every test = true) (hv : v ∈ items) : v.every test = true :=
  (every_arr_iff.1 h).2 v hv

theorem every_of_lookup {test : Json → Bool} {fields : Fields} {name : Text} {v : Json}
    (h : (obj fields).every test = true) (hv : fields.lookup name = some v) : v.every test = true :=
  ((every_obj_iff.1 h).2 (name, v) (Table.mem_of_lookup hv)).2

theorem every_of_field? {test : Json → Bool} {v w : Json} {name : Text}
    (h : v.every test = true) (hw : v.field? name = some w) : w.every test = true := by
  unfold field? at hw
  split at hw
  · exact every_of_lookup h hw
  · cases hw

/-- Can all integers and all whole parts be written, and is no text and no list longer than a bound? -/
def isSmall (bound : Nat) : Json → Bool :=
  every fun
    | .int n => Number.isWritable n
    | .float x => x.isShort
    | .str s => s.length ≤ bound
    | .arr items => items.length ≤ bound
    | _ => true

theorem isSmall_str_iff {bound : Nat} {s : Text} :
    (str s).isSmall bound = true ↔ s.length ≤ bound := by
  simp [isSmall, every]

theorem isSmall_int_iff {bound : Nat} {n : Int} :
    (int n).isSmall bound = true ↔ Number.isWritable n = true := by
  simp [isSmall, every]

theorem isSmall_float_iff {bound : Nat} {x : Binary64} :
    (float x).isSmall bound = true ↔ x.isShort = true := by
  simp [isSmall, every]

theorem isSmall_arr_iff {bound : Nat} {items : List Json} :
    (arr items).isSmall bound = true ↔
      items.length ≤ bound ∧ ∀ v ∈ items, v.isSmall bound = true := by
  simp [isSmall, every_arr_iff]

theorem isSmall_obj_iff {bound : Nat} {fields : List (Text × Json)} :
    (obj fields).isSmall bound = true ↔
      ∀ p ∈ fields, p.1.length ≤ bound ∧ p.2.isSmall bound = true := by
  simp [isSmall, every_obj_iff]

theorem isWritable_of_isSmall {bound : Nat} {v : Json} (h : v.isSmall bound = true) :
    v.isWritable = true := by
  refine every_mono (fun w hw => ?_) v h
  cases w <;> simp_all

/-! ## Values that are written -/

theorem isWritable_obj_iff {fields : Fields} :
    (obj fields).isWritable = true ↔ ∀ p ∈ fields, p.2.isWritable = true := by
  simp only [isWritable, every_obj_iff, true_and]

theorem isWritable_arr_iff {items : List Json} :
    (arr items).isWritable = true ↔ ∀ v ∈ items, v.isWritable = true := by
  simp only [isWritable, every_arr_iff, true_and]

theorem isWritable_int (n : Int) : (int n).isWritable = Number.isWritable n := by
  simp only [isWritable, every]

theorem isWritable_str (s : Text) : (str s).isWritable = true := rfl

theorem isWritable_bool (b : Bool) : (bool b).isWritable = true := rfl

theorem isWritable_strings (xs : List Text) : (strings xs).isWritable = true := by
  rw [strings, isWritable_arr_iff, List.forall_mem_map]
  exact fun s _ => isWritable_str s

/-! ## Values that are shown -/

mutual

/-- A value whose integers can be written can be shown. -/
theorem shown_sayable : ∀ v : Json, v.isWritable = true → v.shown.Sayable
  | .int n => fun h => by
    rw [isWritable_int] at h
    simp [shown, h]
  | .arr items => fun h => by
    simp [shown, shownItems_sayable items (isWritable_arr_iff.1 h)]
  | .obj fields => fun h => by
    simp [shown, shownFields_sayable fields (isWritable_obj_iff.1 h)]
  | .null => fun _ => by simp [shown]
  | .bool true => fun _ => by simp [shown]
  | .bool false => fun _ => by simp [shown]
  | .float _ => fun _ => by simp [shown]
  | .str _ => fun _ => by simp [shown]

theorem shownItems_sayable : ∀ items : List Json, (∀ v ∈ items, v.isWritable = true) →
    (shownItems items).Sayable
  | [], _ => by simp [shownItems]
  | [v], h => shown_sayable v (h v List.mem_cons_self)
  | v :: w :: rest, h => by
    rw [List.forall_mem_cons] at h
    simp [shownItems, shown_sayable v h.1, shownItems_sayable (w :: rest) h.2]

theorem shownFields_sayable : ∀ fields : List (Text × Json), (∀ p ∈ fields, p.2.isWritable = true) →
    (shownFields fields).Sayable
  | [], _ => by simp [shownFields]
  | [(k, v)], h => by
    simp [shownFields, shown_sayable v (h (k, v) List.mem_cons_self)]
  | (k, v) :: p :: rest, h => by
    rw [List.forall_mem_cons] at h
    simp [shownFields, shown_sayable v h.1, shownFields_sayable (p :: rest) h.2]

end

theorem inSentence_isWritable {v : Json} (h : v.isWritable = true) :
    v.inSentence.isWritable = true := by
  unfold inSentence
  split
  · rfl
  · exact (shown_sayable v h).isWritable

/-! ## Texts -/

theorem itemsUntilQuote_length {ps : List CodePoint} {r : List StringItem × List CodePoint}
    (h : itemsUntilQuote ps = .ok r) : r.1.length + r.2.length < ps.length := by
  fun_induction itemsUntilQuote ps generalizing r with
  | case2 =>
    cases h
    simp
  | case5 _ _ _ _ _ _ _ _ _ ih =>
    obtain ⟨s, hs, rfl⟩ := map_eq_ok_iff.1 h
    have := ih hs
    simp only [List.length_cons]
    omega
  | case8 _ _ _ _ _ _ ih =>
    obtain ⟨s, hs, rfl⟩ := map_eq_ok_iff.1 h
    have := ih hs
    simp only [List.length_cons]
    omega
  | case11 _ _ _ _ _ ih =>
    obtain ⟨s, hs, rfl⟩ := map_eq_ok_iff.1 h
    have := ih hs
    simp only [List.length_cons]
    omega
  | _ => cases h

theorem joinItems_length_le (is : List StringItem) : (joinItems is).length ≤ is.length := by
  fun_induction joinItems is with
  | case4 =>
    simp only [List.length_cons] at *
    omega
  | _ => simp_all

theorem readText_length {ps rest : List CodePoint} {t : Text} (h : readText ps = .ok (t, rest)) :
    t.length + rest.length < ps.length := by
  unfold readText at h
  split at h
  · rename_i r hr
    cases h
    have hitems := itemsUntilQuote_length hr
    have hjoin := joinItems_length_le r.1
    simp only [Text.length]
    omega
  · cases h
  · cases h

/-! ## Numbers -/

theorem spanDigits_length (ps : List CodePoint) :
    (spanDigits ps).1.length + (spanDigits ps).2.length = ps.length := by
  fun_induction spanDigits ps with
  | case1 =>
    simp_all only [List.length_cons]
    omega
  | _ => simp

theorem isDigit_of_mem_spanDigits (ps : List CodePoint) :
    ∀ c ∈ (spanDigits ps).1, c.isDigit = true := by
  fun_induction spanDigits ps with
  | case1 => simp_all
  | _ => simp

theorem readFraction_length (ps : List CodePoint) : (readFraction ps).2.length ≤ ps.length := by
  unfold readFraction
  split
  · rename_i rest
    have := spanDigits_length rest
    simp only
    split
    · exact Nat.le_refl _
    · simp only [List.length_cons]
      omega
  · exact Nat.le_refl _

theorem readSign_length (ps : List CodePoint) : (readSign ps).2.length ≤ ps.length := by
  unfold readSign
  split <;> simp

theorem readExponent_length (ps : List CodePoint) : (readExponent ps).2.length ≤ ps.length := by
  unfold readExponent
  split
  · rename_i e rest
    split
    · have hsign := readSign_length rest
      have hdigits := spanDigits_length (readSign rest).2
      simp only
      split
      · exact Nat.le_refl _
      · simp only [List.length_cons]
        omega
    · exact Nat.le_refl _
  · exact Nat.le_refl _

/-- An integer is read only if it is short enough to be written. -/
theorem readNumberTail_isSmall {negative : Bool} {whole : List Char} {ps rest : List CodePoint}
    {v : Json} (hw : ∀ c ∈ whole, c.isDigit = true)
    (h : readNumberTail negative whole ps = .ok (v, rest)) (bound : Nat) :
    v.isSmall bound = true ∧ rest.length ≤ ps.length := by
  have hlength := Nat.le_trans (readExponent_length (readFraction ps).2) (readFraction_length ps)
  simp only [readNumberTail] at h
  split at h
  · split at h
    · rename_i hdigits
      cases h
      have hlt : Text.digitsValue whole < Number.tooLong :=
        Nat.lt_of_lt_of_le (Text.digitsValue_lt hw) (Number.pow_le_tooLong hdigits)
      exact ⟨isSmall_int_iff.2 (Text.isWritable_withSign negative hlt), hlength⟩
    · cases h
  · cases h
    exact ⟨isSmall_float_iff.2 (Binary64.isShort_ofDecimal _ _ _), hlength⟩

theorem readNumber_isSmall {all ps rest : List CodePoint} {negative : Bool} {v : Json}
    (h : readNumber all negative ps = .ok (v, rest)) (bound : Nat) :
    v.isSmall bound = true ∧ rest.length ≤ ps.length := by
  unfold readNumber at h
  split at h
  · obtain ⟨hv, hr⟩ := readNumberTail_isSmall (by simp) h bound
    exact ⟨hv, Nat.le_succ_of_le hr⟩
  · simp only at h
    split at h
    · cases h
    · have hspan := spanDigits_length ps
      obtain ⟨hv, hr⟩ := readNumberTail_isSmall (isDigit_of_mem_spanDigits ps) h bound
      exact ⟨hv, by omega⟩

theorem after?_length {cs : List Char} {ps rest : List CodePoint} (h : after? cs ps = some rest) :
    rest.length ≤ ps.length := by
  fun_induction after? cs ps with
  | case1 =>
    cases h
    exact Nat.le_refl _
  | case3 _ _ _ ih => exact Nat.le_succ_of_le (ih h)
  | _ => cases h

theorem readScalar_isSmall {ps rest : List CodePoint} {v : Json}
    (h : readScalar ps = .ok (v, rest)) (bound : Nat) :
    v.isSmall bound = true ∧ rest.length ≤ ps.length := by
  unfold readScalar at h
  split at h
  · rename_i hword
    cases h
    obtain ⟨w, hw, hafter⟩ := List.exists_of_findSome?_eq_some hword
    obtain ⟨left, hleft, heq⟩ := Option.map_eq_some_iff.1 hafter
    cases heq
    have hwords : ∀ w ∈ words, w.2.isSmall bound = true := by
      simp only [words, List.forall_mem_cons]
      exact ⟨rfl, rfl, rfl, rfl, rfl, rfl, by simp⟩
    exact ⟨hwords w hw, after?_length hleft⟩
  · split at h
    · obtain ⟨hv, hr⟩ := readNumber_isSmall h bound
      exact ⟨hv, Nat.le_succ_of_le hr⟩
    · exact readNumber_isSmall h bound

/-! ## Values -/

theorem skipGaps_length (ps : List CodePoint) : (skipGaps ps).length ≤ ps.length :=
  (List.dropWhile_sublist _).length_le

/-- Fields stay small when one is set. -/
theorem isSmall_set {bound : Nat} {fields : Fields} {name : Text} {v : Json}
    (hf : (obj fields).isSmall bound = true) (hn : name.length ≤ bound)
    (hv : v.isSmall bound = true) : (obj (fields.set name v)).isSmall bound = true := by
  rw [isSmall_obj_iff] at hf ⊢
  induction fields with
  | nil => simp [Table.set, hn, hv]
  | cons p rest ih =>
    obtain ⟨k, w⟩ := p
    rw [List.forall_mem_cons] at hf
    unfold Table.set
    split
    · exact List.forall_mem_cons.2 ⟨⟨hf.1.1, hv⟩, hf.2⟩
    · exact List.forall_mem_cons.2 ⟨hf.1, ih hf.2⟩

/-- What a reader of values gives for so much fuel: parts that are small, and no more code points than it
was given. -/
structure ReadsSmall (bound fuel : Nat) : Prop where
  value : ∀ {room : Nat} {ps rest : List CodePoint} {v : Json}, ps.length ≤ bound →
    readValue fuel room ps = .ok (v, rest) → v.isSmall bound = true ∧ rest.length ≤ ps.length
  items : ∀ {room : Nat} {ps rest : List CodePoint} {vs : List Json}, ps.length ≤ bound →
    readItems fuel room ps = .ok (vs, rest) →
    (∀ v ∈ vs, v.isSmall bound = true) ∧ vs.length + rest.length ≤ ps.length
  fields : ∀ {room : Nat} {before after : Fields} {ps rest : List CodePoint}, ps.length ≤ bound →
    (obj before).isSmall bound = true → readFields fuel room before ps = .ok (after, rest) →
    (obj after).isSmall bound = true ∧ rest.length ≤ ps.length
  field : ∀ {room : Nat} {ps rest : List CodePoint} {name : Text} {v : Json}, ps.length ≤ bound →
    readField fuel room ps = .ok ((name, v), rest) →
    (name.length ≤ bound ∧ v.isSmall bound = true) ∧ rest.length ≤ ps.length

section

variable {bound fuel room : Nat} {ps rest : List CodePoint}

theorem readValue_isSmall (ih : ReadsSmall bound fuel) {v : Json} (hps : ps.length ≤ bound)
    (h : readValue (fuel + 1) room ps = .ok (v, rest)) :
    v.isSmall bound = true ∧ rest.length ≤ ps.length := by
  rw [readValue.eq_def] at h
  simp only at h
  split at h
  · cases h
  · rename_i p ps
    rw [List.length_cons] at hps ⊢
    have hgaps := skipGaps_length ps
    split at h
    · obtain ⟨⟨t, left⟩, ht, heq⟩ := map_eq_ok_iff.1 h
      cases heq
      dsimp only
      have hlength := readText_length ht
      exact ⟨isSmall_str_iff.2 (by omega), by omega⟩
    split at h
    · split at h
      · cases h
      · split at h
        · rename_i after hafter
          cases h
          rw [hafter, List.length_cons] at hgaps
          exact ⟨isSmall_arr_iff.2 ⟨Nat.zero_le _, by simp⟩, by omega⟩
        · obtain ⟨⟨vs, left⟩, hitems, heq⟩ := map_eq_ok_iff.1 h
          cases heq
          dsimp only
          obtain ⟨hvs, hlength⟩ := ih.items (by omega) hitems
          exact ⟨isSmall_arr_iff.2 ⟨by omega, hvs⟩, by omega⟩
    split at h
    · split at h
      · cases h
      · split at h
        · rename_i after hafter
          cases h
          rw [hafter, List.length_cons] at hgaps
          exact ⟨isSmall_obj_iff.2 (by simp), by omega⟩
        · obtain ⟨⟨fields, left⟩, hfields, heq⟩ := map_eq_ok_iff.1 h
          cases heq
          dsimp only
          obtain ⟨hsmall, hlength⟩ :=
            ih.fields (by omega) (isSmall_obj_iff.2 (by simp)) hfields
          exact ⟨hsmall, by omega⟩
    · exact readScalar_isSmall h bound

theorem readItems_isSmall (ih : ReadsSmall bound fuel) {vs : List Json} (hps : ps.length ≤ bound)
    (h : readItems (fuel + 1) room ps = .ok (vs, rest)) :
    (∀ v ∈ vs, v.isSmall bound = true) ∧ vs.length + rest.length ≤ ps.length := by
  rw [readItems.eq_def] at h
  simp only at h
  split at h
  · cases h
  · rename_i v left hv
    obtain ⟨hsmall, hleft⟩ := ih.value hps hv
    have hgaps := skipGaps_length left
    split at h
    · rename_i more hmore
      obtain ⟨⟨ws, after⟩, hws, heq⟩ := map_eq_ok_iff.1 h
      cases heq
      dsimp only
      have hskip := skipGaps_length more
      rw [hmore, List.length_cons] at hgaps
      obtain ⟨hall, hlength⟩ := ih.items (by omega) hws
      exact ⟨List.forall_mem_cons.2 ⟨hsmall, hall⟩, by rw [List.length_cons]; omega⟩
    · rename_i after hafter
      cases h
      rw [hafter, List.length_cons] at hgaps
      exact ⟨List.forall_mem_cons.2 ⟨hsmall, by simp⟩, by rw [List.length_singleton]; omega⟩
    · cases h

theorem readFields_isSmall (ih : ReadsSmall bound fuel) {before after : Fields}
    (hps : ps.length ≤ bound) (hb : (obj before).isSmall bound = true)
    (h : readFields (fuel + 1) room before ps = .ok (after, rest)) :
    (obj after).isSmall bound = true ∧ rest.length ≤ ps.length := by
  rw [readFields.eq_def] at h
  simp only at h
  split at h
  · cases h
  · rename_i name v left hfield
    obtain ⟨⟨hname, hsmall⟩, hleft⟩ := ih.field hps hfield
    have hset := isSmall_set hb hname hsmall
    have hgaps := skipGaps_length left
    split at h
    · rename_i more hmore
      have hskip := skipGaps_length more
      rw [hmore, List.length_cons] at hgaps
      obtain ⟨hafter, hlength⟩ := ih.fields (by omega) hset h
      exact ⟨hafter, by omega⟩
    · rename_i hafter
      cases h
      rw [hafter, List.length_cons] at hgaps
      exact ⟨hset, by omega⟩
    · cases h

theorem readField_isSmall (ih : ReadsSmall bound fuel) {name : Text} {v : Json}
    (hps : ps.length ≤ bound) (h : readField (fuel + 1) room ps = .ok ((name, v), rest)) :
    (name.length ≤ bound ∧ v.isSmall bound = true) ∧ rest.length ≤ ps.length := by
  rw [readField.eq_def] at h
  simp only at h
  split at h
  · rename_i more
    rw [List.length_cons] at hps ⊢
    split at h
    · cases h
    · rename_i t left ht
      have hlength := readText_length ht
      have hgaps := skipGaps_length left
      split at h
      · rename_i value hvalue
        obtain ⟨⟨w, after⟩, hw, heq⟩ := map_eq_ok_iff.1 h
        cases heq
        dsimp only
        have hskip := skipGaps_length value
        rw [hvalue, List.length_cons] at hgaps
        obtain ⟨hsmall, hafter⟩ := ih.value (by omega) hw
        exact ⟨⟨by omega, hsmall⟩, by omega⟩
      · cases h
  · cases h

end

/-- **Nothing that is read is longer than what it is read from**, by induction on the fuel: each reader
calls the others with less of it. -/
theorem readsSmall (bound fuel : Nat) : ReadsSmall bound fuel := by
  induction fuel with
  | zero =>
    constructor <;> intros <;> rename_i h <;>
      simp [readValue, readItems, readFields, readField, flawAt] at h
  | succ fuel ih =>
    exact ⟨readValue_isSmall ih, readItems_isSmall ih, readFields_isSmall ih, readField_isSmall ih⟩

theorem isSmall_of_read {bound : Nat} {room : Room} {t : Text} {v : Json} (ht : t.length ≤ bound)
    (h : read room t = .ok v) : v.isSmall bound = true := by
  unfold read at h
  split at h
  · cases h
  · simp only [readPoints, bind_eq_ok_iff] at h
    obtain ⟨⟨w, rest⟩, hw, h⟩ := h
    simp only at h
    split at h
    · cases h
      exact ((readsSmall bound _).value (Nat.le_trans (skipGaps_length _) ht) hw).1
    · cases h

end Json

/-- **Nothing that is read from bytes is longer than they are.** -/
theorem Json.isSmall_of_readBytes {room : Room} {bs : Bytes} {v : Json}
    (h : Json.readBytes room bs = .ok v) : v.isSmall bs.length = true := by
  unfold Json.readBytes at h
  split at h
  · cases h
  · rename_i t ht
    exact isSmall_of_read (Unicode.decode?_length ht) (mapError_eq_ok_iff.1 h)

end CrossVenue
