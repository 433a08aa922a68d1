import CrossVenue.Bytes
import CrossVenue.Text.Units

/-!
# Text in bytes

Bytes without a declared encoding are read as UTF-8, UTF-16 or UTF-32.  A byte order mark decides;
without one, the zero bytes among the first four do, since the text begins with an ASCII character.
Halves of pairs are read as they stand, in every encoding.

* `detect_of_ascii` : bytes that begin with two ASCII characters other than zero are UTF-8.
-/

set_option autoImplicit false

namespace CrossVenue.Unicode

/-- An encoding, with how many bytes of byte order mark are skipped. -/
inductive Scheme
  | utf8 (skipped : Nat)
  | utf16 (bigEndian : Bool) (skipped : Nat)
  | utf32 (bigEndian : Bool) (skipped : Nat)
deriving DecidableEq, Repr

/-- The encoding that the zero bytes at the start suggest. -/
def detectByZeros : Bytes → Scheme
  | a :: b :: c :: d :: _ =>
    if a = 0 then (if b = 0 then .utf32 true 0 else .utf16 true 0)
    else if b = 0 then (if c = 0 && d = 0 then .utf32 false 0 else .utf16 false 0)
    else .utf8 0
  | [a, b] => if a = 0 then .utf16 true 0 else if b = 0 then .utf16 false 0 else .utf8 0
  | _ => .utf8 0

/-- The encoding of bytes. -/
def detect (bs : Bytes) : Scheme :=
  if [0, 0, 0xFE, 0xFF].isPrefixOf bs then .utf32 true 4
  else if [0xFF, 0xFE, 0, 0].isPrefixOf bs then .utf32 false 4
  else if [0xFE, 0xFF].isPrefixOf bs then .utf16 true 2
  else if [0xFF, 0xFE].isPrefixOf bs then .utf16 false 2
  else if [0xEF, 0xBB, 0xBF].isPrefixOf bs then .utf8 3
  else detectByZeros bs

/-- Numbers of `width` bytes each, unless bytes are left over. -/
def units? (bigEndian : Bool) (width : Nat) (bs : Bytes) : Option (List Nat) :=
  if width = 0 || bs.length % width ≠ 0 then none
  else
    some <| (List.range (bs.length / width)).map fun i =>
      let part := Bytes.slice bs (i * width) width
      if bigEndian then Bytes.bigEndian part else Bytes.littleEndian part

/-- The code points of numbers, if all are code points. -/
def ofNumbers? (ns : List Nat) : Option (List CodePoint) := ns.mapM CodePoint.ofNat?

/-- The bits that a byte adds to a code point when it is not the first of its sequence. -/
def tail? (b : UInt8) : Option Nat :=
  if 0x80 ≤ b.toNat ∧ b.toNat < 0xC0 then some (b.toNat - 0x80) else none

/-- The code point of a sequence of two bytes. -/
def pair? (a b : UInt8) : Option CodePoint :=
  match tail? b with
  | some y =>
    if 0xC2 ≤ a.toNat ∧ a.toNat < 0xE0 then some (.ofNat ((a.toNat - 0xC0) * 0x40 + y)) else none
  | none => none

/-- The code point of a sequence of three bytes. -/
def triple? (a b c : UInt8) : Option CodePoint :=
  match tail? b, tail? c with
  | some y, some z =>
    let n := ((a.toNat - 0xE0) * 0x40 + y) * 0x40 + z
    if 0xE0 ≤ a.toNat ∧ a.toNat < 0xF0 ∧ 0x800 ≤ n then some (.ofNat n) else none
  | _, _ => none

/-- The code point of a sequence of four bytes. -/
def quadruple? (a b c d : UInt8) : Option CodePoint :=
  match tail? b, tail? c, tail? d with
  | some y, some z, some w =>
    let n := (((a.toNat - 0xF0) * 0x40 + y) * 0x40 + z) * 0x40 + w
    if 0xF0 ≤ a.toNat ∧ 0x10000 ≤ n ∧ n < 0x110000 then some (.ofNat n) else none
  | _, _, _ => none

/-- The code points of UTF-8 bytes; a half is taken like any code point of three bytes. -/
def utf8Points? : Bytes → Option (List CodePoint)
  | [] => some []
  | a :: as =>
    if a.toNat < 0x80 then (utf8Points? as).map (.ofNat a.toNat :: ·)
    else
      match as with
      | [] => none
      | b :: bs =>
        match pair? a b with
        | some p => (utf8Points? bs).map (p :: ·)
        | none =>
          match bs with
          | [] => none
          | c :: cs =>
            match triple? a b c with
            | some p => (utf8Points? cs).map (p :: ·)
            | none =>
              match cs with
              | [] => none
              | d :: ds =>
                match quadruple? a b c d with
                | some p => (utf8Points? ds).map (p :: ·)
                | none => none

/-- The UTF-8 bytes of a text; a half has none. -/
def toUtf8? (t : Text) : Option Bytes := t.toString?.map fun s => s.toUTF8.toList

/-- The text of bytes, in the encoding that they are in. -/
def decode? (bs : Bytes) : Option Text :=
  match detect bs with
  | .utf8 skipped => (utf8Points? (bs.drop skipped)).map Text.mk
  | .utf16 big skipped =>
    (units? big 2 (bs.drop skipped)).map fun ns => Text.mk (Text.Units.codePoints ns)
  | .utf32 big skipped => ((units? big 4 (bs.drop skipped)).bind ofNumbers?).map Text.mk

theorem detect_of_ascii {a b : UInt8} {bs : Bytes} (ha : a ≠ 0) (ha' : a < 128) (hb : b ≠ 0) :
    detect (a :: b :: bs) = .utf8 0 := by
  have h1 : a ≠ 0xFF := by rintro rfl; revert ha'; decide
  have h2 : a ≠ 0xFE := by rintro rfl; revert ha'; decide
  have h3 : a ≠ 0xEF := by rintro rfl; revert ha'; decide
  unfold detect
  simp only [List.isPrefixOf, beq_iff_eq, Bool.and_eq_true]
  have e0 : ((0 : UInt8) == a) = false := by simp [Ne.symm ha]
  have e1 : ((0xFF : UInt8) == a) = false := by simp [Ne.symm h1]
  have e2 : ((0xFE : UInt8) == a) = false := by simp [Ne.symm h2]
  have e3 : ((0xEF : UInt8) == a) = false := by simp [Ne.symm h3]
  simp only [Ne.symm ha, Ne.symm h1, Ne.symm h2, Ne.symm h3, false_and, if_false]
  match bs with
  | [] => simp [detectByZeros, ha, hb]
  | [_] => simp [detectByZeros]
  | _ :: _ :: _ => simp [detectByZeros, ha, hb]

end CrossVenue.Unicode
