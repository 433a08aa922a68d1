import CrossVenue.Bytes

/-!
# Keccak-256

The sponge with a rate of 136 bytes and the padding byte `0x01`, on twenty-five lanes of 64 bits that
are held row by row.  `digest_length` says that the digest has 32 bytes.
-/

set_option autoImplicit false

namespace CrossVenue.Keccak256

/-- Twenty-five lanes; the lane of column `x` and row `y` has index `x + 5 * y`. -/
abbrev State := Vector UInt64 25

/-- The lane of a column and a row, both taken modulo five. -/
def lane (s : State) (x y : Nat) : UInt64 := s.get ⟨x % 5 + 5 * (y % 5), by omega⟩

/-- The state whose lanes a function of column and row gives. -/
def ofLanes (f : Nat → Nat → UInt64) : State := Vector.ofFn fun i => f (i.val % 5) (i.val / 5)

/-- The word turned left. -/
def rotateLeft (x : UInt64) (n : Nat) : UInt64 :=
  if n = 0 then x else (x <<< UInt64.ofNat n) ||| (x >>> UInt64.ofNat (64 - n))

/-- How far each lane is turned. -/
def offsets : List Nat := [
  0, 1, 62, 28, 27, 36, 44, 6, 55, 20, 3, 10, 43, 25, 39, 41, 45, 15, 21, 8, 18, 2, 61, 56, 14
]

/-- The constant added to the first lane in each round. -/
def roundConstants : List UInt64 := [
  0x0000000000000001, 0x0000000000008082, 0x800000000000808a, 0x8000000080008000,
  0x000000000000808b, 0x0000000080000001, 0x8000000080008081, 0x8000000000008009,
  0x000000000000008a, 0x0000000000000088, 0x0000000080008009, 0x000000008000000a,
  0x000000008000808b, 0x800000000000008b, 0x8000000000008089, 0x8000000000008003,
  0x8000000000008002, 0x8000000000000080, 0x000000000000800a, 0x800000008000000a,
  0x8000000080008081, 0x8000000000008080, 0x0000000080000001, 0x8000000080008008
]

/-- The sum of a column. -/
def columnSum (s : State) (x : Nat) : UInt64 :=
  lane s x 0 ^^^ lane s x 1 ^^^ lane s x 2 ^^^ lane s x 3 ^^^ lane s x 4

/-- Adds to each lane the sums of two neighbouring columns. -/
def mixColumns (s : State) : State :=
  ofLanes fun x y => lane s x y ^^^ columnSum s (x + 4) ^^^ rotateLeft (columnSum s (x + 1)) 1

/-- Turns each lane by its offset and moves it to its new place. -/
def moveLanes (s : State) : State :=
  ofLanes fun x y =>
    let column := x + 3 * y
    rotateLeft (lane s column x) (offsets.getD (column % 5 + 5 * x) 0)

/-- Combines each lane with the next two of its row. -/
def mixRows (s : State) : State :=
  ofLanes fun x y => lane s x y ^^^ (~~~lane s (x + 1) y &&& lane s (x + 2) y)

/-- One round. -/
def round (s : State) (constant : UInt64) : State :=
  let t := mixRows (moveLanes (mixColumns s))
  t.set 0 (t[0] ^^^ constant)

/-- The permutation of the state. -/
def permute (s : State) : State := roundConstants.foldl round s

/-- How many bytes a block has. -/
def rate : Nat := 136

/-- Adds a block to the state. -/
def absorb (s : State) (block : Bytes) : State :=
  permute <| Vector.ofFn fun i =>
    s[i] ^^^ UInt64.ofNat (Bytes.littleEndian (Bytes.slice block (8 * i.val) 8))

/-- The message filled up to whole blocks. -/
def padded (message : Bytes) : Bytes :=
  let missing := rate - message.length % rate
  message ++
    (if missing = 1 then [0x81] else 0x01 :: List.replicate (missing - 2) 0 ++ [0x80])

/-- Absorbs `count` blocks in order. -/
def absorbAll : Nat → Bytes → State → State
  | 0, _, s => s
  | count + 1, bs, s => absorbAll count (bs.drop rate) (absorb s (bs.take rate))

/-- The digest of a message. -/
def digest (message : Bytes) : Bytes :=
  let bs := padded message
  let s := absorbAll (bs.length / rate) bs (Vector.replicate 25 0)
  Bytes.ofLittleEndian 8 s[0].toNat ++ Bytes.ofLittleEndian 8 s[1].toNat ++
    Bytes.ofLittleEndian 8 s[2].toNat ++ Bytes.ofLittleEndian 8 s[3].toNat

theorem digest_length (message : Bytes) : (digest message).length = 32 := by
  simp [digest, Bytes.ofLittleEndian_length]

end CrossVenue.Keccak256
