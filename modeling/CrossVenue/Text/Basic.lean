/-!
# Texts

A text is a sequence of code points.  Nearly all of them are characters, but an escape or an encoded
text may also hold one half of a pair of 16-bit units without the other, and such a half is no
character.  A text without halves is plain, and is then a string.

* `ofString_inj`, `ofString_append` : strings are texts, and are joined as such;
* `chars?_eq_some_iff`, `isPlain_iff` : which texts are plain.
-/

set_option autoImplicit false

namespace CrossVenue

/-- A character, or half of a pair of 16-bit units by itself. -/
inductive CodePoint
  | char (c : Char)
  | half (n : Fin 0x800)
deriving DecidableEq, Repr

namespace CodePoint

instance : Coe Char CodePoint := ⟨char⟩

/-- The number of a code point; halves have the numbers that no character has. -/
def toNat : CodePoint → Nat
  | char c => c.toNat
  | half n => 0xD800 + n.val

/-- The code point of a number; beyond the last one it is that of zero. -/
def ofNat (n : Nat) : CodePoint :=
  if h : 0xD800 ≤ n ∧ n < 0xE000 then half ⟨n - 0xD800, by omega⟩ else char (Char.ofNat n)

/-- The code point of a number, if there is one. -/
def ofNat? (n : Nat) : Option CodePoint := if n < 0x110000 then some (ofNat n) else none

/-- The character, unless it is a half. -/
def char? : CodePoint → Option Char
  | char c => some c
  | half _ => none

theorem char?_eq_some_iff {p : CodePoint} {c : Char} : p.char? = some c ↔ p = char c := by
  cases p <;> simp [char?]

theorem ofNat_toNat (p : CodePoint) : ofNat p.toNat = p := by
  cases p with
  | char c =>
    have h : ¬ (0xD800 ≤ c.toNat ∧ c.toNat < 0xE000) := by
      have hv : c.toNat < 0xD800 ∨ (0xDFFF < c.toNat ∧ c.toNat < 0x110000) := c.valid
      omega
    simp only [toNat, ofNat, dif_neg h, Char.ofNat_toNat]
  | half n =>
    have h : 0xD800 ≤ 0xD800 + n.val ∧ 0xD800 + n.val < 0xE000 := by omega
    rw [toNat, ofNat, dif_pos h]
    exact congrArg half (Fin.ext (by simp))

end CodePoint

/-- A sequence of code points. -/
@[ext]
structure Text where
  toList : List CodePoint
deriving DecidableEq, Repr, Inhabited

namespace Text

/-- The text of characters. -/
def ofChars (cs : List Char) : Text := ⟨cs.map CodePoint.char⟩

/-- The text of a string. -/
def ofString (s : String) : Text := ofChars s.toList

instance : Coe String Text := ⟨ofString⟩

instance : Append Text := ⟨fun s t => ⟨s.toList ++ t.toList⟩⟩

/-- How many code points a text has. -/
def length (t : Text) : Nat := t.toList.length

/-- Has a text no code points? -/
def isEmpty (t : Text) : Bool := t.toList.isEmpty

/-- Texts one after another, with a text between them. -/
def intercalate (between : Text) (ts : List Text) : Text :=
  ⟨between.toList.intercalate (ts.map toList)⟩

/-- The characters of a text, unless one of its code points is a half. -/
def chars? (t : Text) : Option (List Char) := t.toList.mapM CodePoint.char?

/-- The string of a text, unless one of its code points is a half. -/
def toString? (t : Text) : Option String := t.chars?.map String.ofList

/-- Are all code points characters? -/
def isPlain (t : Text) : Bool := t.toList.all fun p => p.char?.isSome

@[simp]
theorem toList_append (s t : Text) : (s ++ t).toList = s.toList ++ t.toList := rfl

@[simp]
theorem toList_ofString (s : String) : (ofString s).toList = s.toList.map CodePoint.char := rfl

theorem ofString_append (s t : String) : ofString (s ++ t) = ofString s ++ ofString t := by
  ext1
  simp

theorem chars?_eq_some_iff {t : Text} {cs : List Char} : t.chars? = some cs ↔ t = ofChars cs := by
  obtain ⟨ps⟩ := t
  simp only [chars?, ofChars, mk.injEq]
  induction ps generalizing cs with
  | nil => cases cs <;> simp
  | cons p ps ih =>
    simp only [List.mapM_cons, bind, Option.bind_eq_some_iff, pure, Option.some.injEq]
    constructor
    · rintro ⟨c, hc, ds, hd, rfl⟩
      simp [CodePoint.char?_eq_some_iff.1 hc, ih.1 hd]
    · intro h
      cases cs with
      | nil => simp at h
      | cons c cs =>
        simp only [List.map_cons, List.cons.injEq] at h
        exact ⟨c, CodePoint.char?_eq_some_iff.2 h.1, cs, ih.2 h.2, rfl⟩

@[simp]
theorem chars?_ofChars (cs : List Char) : (ofChars cs).chars? = some cs := chars?_eq_some_iff.2 rfl

@[simp]
theorem toString?_ofString (s : String) : (ofString s).toString? = some s := by
  simp [toString?, ofString]

theorem ofString_inj {s t : String} : ofString s = ofString t ↔ s = t := by
  constructor
  · intro h
    have h' := toString?_ofString s
    rw [h, toString?_ofString] at h'
    exact (Option.some.inj h').symm
  · rintro rfl
    rfl

theorem isPlain_iff {t : Text} : t.isPlain = true ↔ ∃ s : String, t = ofString s := by
  constructor
  · intro h
    have hc : ∃ cs, t = ofChars cs := by
      obtain ⟨ps⟩ := t
      simp only [isPlain, ofChars, mk.injEq] at h ⊢
      induction ps with
      | nil => exact ⟨[], rfl⟩
      | cons p ps ih =>
        simp only [List.all_cons, Bool.and_eq_true, Option.isSome_iff_exists] at h
        obtain ⟨⟨c, hc⟩, hps⟩ := h
        obtain ⟨cs, rfl⟩ := ih hps
        exact ⟨c :: cs, by simp [CodePoint.char?_eq_some_iff.1 hc]⟩
    obtain ⟨cs, rfl⟩ := hc
    exact ⟨String.ofList cs, by simp [ofString]⟩
  · rintro ⟨s, rfl⟩
    simp [isPlain, CodePoint.char?]

end Text

end CrossVenue
