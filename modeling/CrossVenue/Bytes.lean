/-!
# Byte strings and fixed-width words

A byte string is a list of bytes.  Words are read and written at a given width:

* `Bytes.ofLittleEndian_length`, `Bytes.ofBigEndian_length` : a written word has its width;
* `Bytes.littleEndian_ofLittleEndian` : reading undoes writing, up to the width.
-/

set_option autoImplicit false

namespace CrossVenue

/-- A string of bytes. -/
abbrev Bytes := List UInt8

namespace Bytes

/-- The number whose least significant byte comes first. -/
def littleEndian : Bytes → Nat
  | [] => 0
  | b :: bs => b.toNat + 256 * littleEndian bs

/-- The number whose most significant byte comes first. -/
def bigEndian (bs : Bytes) : Nat := littleEndian bs.reverse

/-- The lowest `width` bytes of a number, least significant first. -/
def ofLittleEndian : Nat → Nat → Bytes
  | 0, _ => []
  | width + 1, n => UInt8.ofNat (n % 256) :: ofLittleEndian width (n / 256)

/-- The lowest `width` bytes of a number, most significant first. -/
def ofBigEndian (width n : Nat) : Bytes := (ofLittleEndian width n).reverse

/-- The `count` bytes that start at `offset`. -/
def slice (bs : Bytes) (offset count : Nat) : Bytes := (bs.drop offset).take count

/-- The signed reading of a `bits` wide word: values from the middle up stand for negatives. -/
def signed (bits n : Nat) : Int :=
  if 2 * n < Nat.pow 2 bits then (n : Int) else (n : Int) - Nat.pow 2 bits

theorem ofLittleEndian_length (width n : Nat) : (ofLittleEndian width n).length = width := by
  induction width generalizing n with
  | zero => rfl
  | succ w ih => simp [ofLittleEndian, ih]

theorem ofBigEndian_length (width n : Nat) : (ofBigEndian width n).length = width := by
  simp [ofBigEndian, ofLittleEndian_length]

theorem littleEndian_ofLittleEndian (width n : Nat) :
    littleEndian (ofLittleEndian width n) = n % Nat.pow 256 width := by
  induction width generalizing n with
  | zero => simp [ofLittleEndian, littleEndian, Nat.mod_one]
  | succ w ih =>
    have h : (UInt8.ofNat (n % 256)).toNat = n % 256 := by simp
    simp only [ofLittleEndian, littleEndian, ih, h]
    rw [Nat.pow_eq, Nat.pow_eq, Nat.pow_succ', Nat.mod_mul]

theorem bigEndian_ofBigEndian (width n : Nat) :
    bigEndian (ofBigEndian width n) = n % Nat.pow 256 width := by
  simp [bigEndian, ofBigEndian, littleEndian_ofLittleEndian]

end Bytes

end CrossVenue
