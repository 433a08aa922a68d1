import CrossVenue.Bytes
import CrossVenue.Text.Blank

/-!
# Base58 text

A byte string is written as one `1` for each leading zero byte, followed by the digits of the
number that the rest spells.  Reading drops trailing blanks first.

* `value?_digit` : the alphabet has no digit twice;
* `numeralValue_numeral` : the digits of a number spell it.
-/

set_option autoImplicit false

namespace CrossVenue.Base58

/-- The digits in increasing order of value; zero and the letters O, I and l are left out. -/
def alphabet : List Char := "123456789ABCDEFGHJKLMNPQRSTUVWXYZabcdefghijkmnopqrstuvwxyz".toList

/-- The digit of a value below fifty-eight. -/
def digit (n : Nat) : Char := alphabet.getD n '1'

/-- The value of a digit. -/
def value? (c : Char) : Option Nat :=
  let n := alphabet.idxOf c
  if n < alphabet.length then some n else none

/-- Why a text is not a base58 numeral. -/
inductive Fault
  | notAscii
  | invalidCharacter (c : Char)
deriving DecidableEq, Repr

/-- The values of a number's digits, most significant first; none for zero. -/
def numeral (n : Nat) : List Nat :=
  if n = 0 then [] else numeral (n / 58) ++ [n % 58]
termination_by n
decreasing_by omega

/-- The number that digit values spell. -/
def numeralValue (ds : List Nat) : Nat := ds.foldl (fun n d => 58 * n + d) 0

/-- The bytes of a number, most significant first, without leading zeros. -/
def minimalBytes (n : Nat) : Bytes :=
  if n = 0 then [] else minimalBytes (n / 256) ++ [UInt8.ofNat (n % 256)]
termination_by n
decreasing_by omega

/-- The digits of a byte string. -/
def encodeChars (bs : Bytes) : List Char :=
  (bs.takeWhile (· = 0)).map (fun _ => '1') ++ (numeral bs.bigEndian).map digit

/-- The byte string as text. -/
def encode (bs : Bytes) : String := String.ofList (encodeChars bs)

/-- The values of the digits, or the first character that is none. -/
def digitValues : List Char → Except Fault (List Nat)
  | [] => .ok []
  | c :: cs =>
    match value? c with
    | some d => (digitValues cs).map (d :: ·)
    | none => .error (.invalidCharacter c)

/-- The bytes that the characters spell. -/
def decodeChars (cs : List Char) : Except Fault Bytes :=
  (digitValues (cs.dropWhile (· = '1'))).map fun ds =>
    (cs.takeWhile (· = '1')).map (fun _ => (0 : UInt8)) ++ minimalBytes (numeralValue ds)

/-- The ASCII character that a code point is. -/
def ascii? (p : CodePoint) : Option Char := p.char?.filter fun c => c.toNat < 128

/-- The bytes that a text spells. -/
def decode (t : Text) : Except Fault Bytes :=
  match (Text.trimEnd CodePoint.isBlank t.toList).mapM ascii? with
  | some cs => decodeChars cs
  | none => .error .notAscii

theorem value?_digit : ∀ d, d < 58 → value? (digit d) = some d := by decide

theorem numeralValue_append (ds : List Nat) (d : Nat) :
    numeralValue (ds ++ [d]) = 58 * numeralValue ds + d := by
  simp [numeralValue]

theorem numeralValue_numeral (n : Nat) : numeralValue (numeral n) = n := by
  rw [numeral]
  split
  · simp_all [numeralValue]
  · rw [numeralValue_append, numeralValue_numeral (n / 58)]
    omega
termination_by n
decreasing_by omega

end CrossVenue.Base58
