import CrossVenue.Encoding.Unicode
import CrossVenue.Failure
import CrossVenue.Text.Casing

/-!
# The environment

Names and values of variables are bytes, which are read as UTF-8.  A byte that belongs to no character
is read as half of a pair of 16-bit units, and such a half is that byte again when a variable is set.

* `toBytes?_ofString` : plain texts are set as their UTF-8 bytes;
* `ofBytes_ascii` : ASCII bytes are read as the characters that they are.
-/

set_option autoImplicit false

namespace CrossVenue

/-- The variables of a process. -/
structure Environment where
  entries : Table Text
deriving DecidableEq, Repr

namespace Environment

/-- The environment without variables. -/
def empty : Environment := ⟨[]⟩

/-- The half that a byte beyond ASCII is read as when it belongs to no character. -/
def half (b : UInt8) : CodePoint := .ofNat (0xDC00 + b.toNat)

/-- The bytes of a code point; only some halves have one. -/
def pointBytes? : CodePoint → Option Bytes
  | .char c => some (String.singleton c).toUTF8.toList
  | .half n => if 0x480 ≤ n.val ∧ n.val < 0x500 then some [UInt8.ofNat (n.val - 0x400)] else none

/-- The bytes of a text, if all its code points have bytes. -/
def toBytes? (t : Text) : Option Bytes := (t.toList.mapM pointBytes?).map List.flatten

/-- The character at the start of UTF-8 bytes, with how many bytes it takes. -/
def leadingChar? (bs : Bytes) : Option (Char × Nat) :=
  [1, 2, 3, 4].findSome? fun n =>
    match Unicode.utf8Points? (bs.take n) with
    | some [.char c] => some (c, n)
    | _ => none

/-- The code points of bytes of which the first ones are left out. -/
def pointsAfter : Nat → Bytes → List CodePoint
  | _, [] => []
  | n + 1, _ :: bs => pointsAfter n bs
  | 0, b :: bs =>
    match leadingChar? (b :: bs) with
    | some (c, n) => .char c :: pointsAfter (n - 1) bs
    | none => half b :: pointsAfter 0 bs

/-- The text of bytes. -/
def ofBytes (bs : Bytes) : Text := ⟨pointsAfter 0 bs⟩

/-- The bytes of a text, or a breakdown if it has none. -/
def encoded (t : Text) : Attempt Bytes :=
  match toBytes? t with
  | some bs => .ok bs
  | none => breakDown .notPlain

/-- The bytes of a value that has to be a text. -/
def encodedValue : Json → Attempt Bytes
  | .str t => encoded t
  | _ => breakDown .wrongKind

/-- Sets a variable; neither part holds a zero byte, and the name is not empty and holds no `=`. -/
def set (e : Environment) (name : Text) (value : Json) : Attempt Environment := do
  let nameBytes ← encoded name
  let valueBytes ← encodedValue value
  if nameBytes.contains 0 || valueBytes.contains 0 || nameBytes.contains 0x3D then
    breakDown .badText
  else if nameBytes.isEmpty then breakDown .refusedName
  else .ok ⟨e.entries.set (ofBytes nameBytes) (ofBytes valueBytes)⟩

/-- The environment with the fields of an object as its variables. -/
def ofFields (fields : Json.Fields) : Attempt Environment :=
  fields.foldlM (fun e p => e.set p.1 p.2) empty

/-- The value of a variable, whatever the case of its name; the last of several counts. -/
def value? (e : Environment) (name : Text) : Option Text :=
  (e.entries.reverse.find? fun p => Text.lower p.1 == Text.lower name).map (·.2)

theorem toBytes?_ofString (s : String) :
    toBytes? s = some (s.toList.flatMap fun c => (String.singleton c).toUTF8.toList) := by
  have h (cs : List Char) : (cs.map CodePoint.char).mapM pointBytes? =
      some (cs.map fun c => (String.singleton c).toUTF8.toList) := by
    induction cs with
    | nil => rfl
    | cons c cs ih => simp [pointBytes?, ih]
  simp [toBytes?, h, List.flatMap]

theorem leadingChar?_ascii {b : UInt8} {bs : Bytes} (h : b.toNat < 0x80) :
    leadingChar? (b :: bs) = some (Char.ofNat b.toNat, 1) := by
  have hn : ¬ (0xD800 ≤ b.toNat ∧ b.toNat < 0xE000) := by omega
  simp [leadingChar?, Unicode.utf8Points?, h, CodePoint.ofNat, hn]

theorem ofBytes_ascii {bs : Bytes} (h : ∀ b ∈ bs, b.toNat < 0x80) :
    ofBytes bs = Text.ofChars (bs.map fun b => Char.ofNat b.toNat) := by
  induction bs with
  | nil => rfl
  | cons b bs ih =>
    have hb : leadingChar? (b :: bs) = some (Char.ofNat b.toNat, 1) :=
      leadingChar?_ascii (h b List.mem_cons_self)
    have hbs := ih fun c hc => h c (List.mem_cons_of_mem b hc)
    simp only [ofBytes, Text.ofChars, Text.mk.injEq] at hbs ⊢
    simp only [pointsAfter, hb, List.map_cons, hbs]

end Environment

end CrossVenue
