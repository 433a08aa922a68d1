import CrossVenue.Bytes

/-!
# Points of the twisted Edwards curve over the field of `2 ^ 255 - 19` elements

A point is compressed to its ordinate and the sign of its abscissa.  Thirty-two bytes decompress to a
point when the abscissa's square, computed from the ordinate, is zero or passes Euler's criterion; an
ordinate is taken modulo the field's size, and the sign is not looked at.
-/

set_option autoImplicit false

namespace CrossVenue.Edwards25519

/-- The size of the field. -/
def fieldSize : Nat :=
  0x7fffffffffffffffffffffffffffffffffffffffffffffffffffffffffffffed

/-- The curve's parameter: `-121665 / 121666` in the field. -/
def parameter : Nat :=
  37095705934669439343138083508754565189542113879843219016388785533085940283555

/-- A power modulo `m`, by repeated squaring. -/
def powMod (base exponent m : Nat) : Nat :=
  if exponent = 0 then 1 % m
  else
    let half := powMod (base * base % m) (exponent / 2) m
    if exponent % 2 = 1 then half * base % m else half
termination_by exponent
decreasing_by omega

/-- Is the element zero or a square? -/
def isSquare (x : Nat) : Bool :=
  x % fieldSize == 0 || powMod (x % fieldSize) ((fieldSize - 1) / 2) fieldSize == 1

/-- Where the bit of the sign stands: above the bits of the ordinate. -/
def signBit : Nat := fieldSize + 19

/-- The ordinate that a compressed point holds. -/
def ordinate (bs : Bytes) : Nat := bs.littleEndian % signBit % fieldSize

/-- Do the bytes decompress to a point? -/
def decompresses (bs : Bytes) : Bool :=
  let y := ordinate bs
  let y2 := y * y % fieldSize
  let numerator := (y2 + (fieldSize - 1)) % fieldSize
  let denominator := (parameter * y2 + 1) % fieldSize
  isSquare (numerator * denominator)

end CrossVenue.Edwards25519
