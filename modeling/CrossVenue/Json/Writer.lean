import CrossVenue.Encoding.Hex
import CrossVenue.Json.Value
import CrossVenue.Number.Digits
import CrossVenue.Number.Shortest

/-!
# Compact JSON text

No blank stands outside strings, fields keep their order, and everything outside the printable ASCII
range is escaped, so the text is plain ASCII: `writtenPoint_ascii`.  A value is not written if an integer in
it has too many digits or the stack has no room for its lists and objects.
-/

set_option autoImplicit false

namespace CrossVenue.Json

/-- An escaped 16-bit unit. -/
def escapedUnit (n : Nat) : List Char := '\\' :: 'u' :: Hex.padded 4 n

/-- A character inside a string. -/
def writtenChar (c : Char) : List Char :=
  if c = '\"' then ['\\', '\"']
  else if c = '\\' then ['\\', '\\']
  else if c = '\n' then ['\\', 'n']
  else if c = '\r' then ['\\', 'r']
  else if c = '\t' then ['\\', 't']
  else if c = '\x0c' then ['\\', 'f']
  else if c = '\x08' then ['\\', 'b']
  else if 0x20 ≤ c.toNat ∧ c.toNat ≤ 0x7E then [c]
  else if c.toNat < 0x10000 then escapedUnit c.toNat
  else
    escapedUnit (0xD800 + (c.toNat - 0x10000) / 0x400) ++
      escapedUnit (0xDC00 + (c.toNat - 0x10000) % 0x400)

/-- A code point inside a string. -/
def writtenPoint : CodePoint → List Char
  | .char c => writtenChar c
  | .half n => escapedUnit (CodePoint.half n).toNat

/-- A text with its quotes. -/
def writtenText (t : Text) : List Char :=
  '\"' :: t.toList.flatMap writtenPoint ++ ['\"']

mutual

/-- The characters of a value. -/
def chars : Json → List Char
  | .null => ['n', 'u', 'l', 'l']
  | .bool true => ['t', 'r', 'u', 'e']
  | .bool false => ['f', 'a', 'l', 's', 'e']
  | .int n => (toString n).toList
  | .float x => (x.text "Infinity" "NaN").toList
  | .str s => writtenText s
  | .arr items => '[' :: itemChars items ++ [']']
  | .obj fields => '\x7b' :: fieldChars fields ++ ['\x7d']

/-- The characters of items with commas between. -/
def itemChars : List Json → List Char
  | [] => []
  | [v] => chars v
  | v :: w :: rest => chars v ++ ',' :: itemChars (w :: rest)

/-- The characters of fields with commas between. -/
def fieldChars : List (Text × Json) → List Char
  | [] => []
  | [(k, v)] => writtenText k ++ ':' :: chars v
  | (k, v) :: p :: rest => writtenText k ++ ':' :: chars v ++ ',' :: fieldChars (p :: rest)

end

/-- The compact text of a value. -/
def write (v : Json) : String := String.ofList v.chars

/-- The compact text of a value as bytes. -/
def encode (v : Json) : List UInt8 := v.chars.map fun c => UInt8.ofNat c.toNat

/-- Why a value is not written. -/
inductive WriteFault
  /-- There is no room for so many lists and objects inside each other. -/
  | tooDeep
  /-- An integer has too many digits. -/
  | oversized
deriving DecidableEq, Repr

mutual

/-- Looks for what keeps a value from being written, in the order of its text. -/
def checkWritten : Nat → Json → Except WriteFault Unit
  | _, .int n => if Number.isWritable n then .ok () else .error .oversized
  | 0, .arr _ => .error .tooDeep
  | room + 1, .arr items => checkItems room items
  | 0, .obj _ => .error .tooDeep
  | room + 1, .obj fields => checkFields room fields
  | _, _ => .ok ()

/-- Looks for what keeps items from being written. -/
def checkItems : Nat → List Json → Except WriteFault Unit
  | _, [] => .ok ()
  | room, v :: rest => do
    checkWritten room v
    checkItems room rest

/-- Looks for what keeps fields from being written. -/
def checkFields : Nat → List (Text × Json) → Except WriteFault Unit
  | _, [] => .ok ()
  | room, (_, v) :: rest => do
    checkWritten room v
    checkFields room rest

end

/-- Writes a value as bytes. -/
def encodeIn (room : Room) (v : Json) : Except WriteFault (List UInt8) :=
  (checkWritten room.levels v).map fun _ => v.encode

theorem digit_ascii : ∀ n, n < 16 → (Hex.digit n).toNat < 128 := by decide

theorem padded_ascii (width n : Nat) : ∀ c ∈ Hex.padded width n, c.toNat < 128 := by
  induction width generalizing n with
  | zero => simp [Hex.padded]
  | succ w ih =>
    intro c hc
    simp only [Hex.padded, List.mem_append, List.mem_singleton] at hc
    rcases hc with hc | rfl
    · exact ih _ c hc
    · exact digit_ascii _ (by omega)

theorem escapedUnit_ascii (n : Nat) : ∀ c ∈ escapedUnit n, c.toNat < 128 := by
  intro c hc
  simp only [escapedUnit, List.mem_cons] at hc
  rcases hc with rfl | rfl | hc
  · decide
  · decide
  · exact padded_ascii _ _ c hc

theorem writtenChar_ascii (c : Char) : ∀ d ∈ writtenChar c, d.toNat < 128 := by
  unfold writtenChar
  intro d hd
  split at hd
  · simp at hd; rcases hd with rfl | rfl <;> decide
  split at hd
  · simp at hd; subst hd; decide
  split at hd
  · simp at hd; rcases hd with rfl | rfl <;> decide
  split at hd
  · simp at hd; rcases hd with rfl | rfl <;> decide
  split at hd
  · simp at hd; rcases hd with rfl | rfl <;> decide
  split at hd
  · simp at hd; rcases hd with rfl | rfl <;> decide
  split at hd
  · simp at hd; rcases hd with rfl | rfl <;> decide
  split at hd
  · simp only [List.mem_singleton] at hd; subst hd; omega
  split at hd
  · exact escapedUnit_ascii _ d hd
  · rcases List.mem_append.1 hd with hd | hd <;> exact escapedUnit_ascii _ d hd

theorem writtenPoint_ascii (p : CodePoint) : ∀ d ∈ writtenPoint p, d.toNat < 128 := by
  cases p with
  | char c => exact writtenChar_ascii c
  | half n => exact escapedUnit_ascii _

end CrossVenue.Json
