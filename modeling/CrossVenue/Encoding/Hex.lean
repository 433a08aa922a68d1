import CrossVenue.Bytes
import CrossVenue.Text.Basic

/-!
# Hexadecimal text

Bytes are written as pairs of lower-case digits.  Reading takes either case.

* `decode?_encode` : reading what was written gives the bytes back;
* `decodeSpaced?_of_decode?` : the reader that skips blanks between pairs extends the plain one.
-/

set_option autoImplicit false

namespace CrossVenue.Hex

/-- The lower-case digit of a value below sixteen. -/
def digit (n : Nat) : Char :=
  if n < 10 then Char.ofNat (48 + n) else Char.ofNat (87 + n)

/-- The value of a digit in either case. -/
def value? (c : Char) : Option Nat :=
  let n := c.toNat
  if 48 ≤ n ∧ n ≤ 57 then some (n - 48)
  else if 97 ≤ n ∧ n ≤ 102 then some (n - 87)
  else if 65 ≤ n ∧ n ≤ 70 then some (n - 55)
  else none

/-- The last `width` digits of a number. -/
def padded : Nat → Nat → List Char
  | 0, _ => []
  | width + 1, n => padded width (n / 16) ++ [digit (n % 16)]

/-- The digits of the bytes in order. -/
def encodeChars (bs : Bytes) : List Char :=
  bs.flatMap fun b => [digit (b.toNat / 16), digit (b.toNat % 16)]

/-- The bytes as text. -/
def encode (bs : Bytes) : String := String.ofList (encodeChars bs)

/-- The byte of a pair of digits. -/
def pair? (a b : Char) : Option UInt8 :=
  match value? a, value? b with
  | some x, some y => some (UInt8.ofNat (16 * x + y))
  | _, _ => none

/-- The bytes of pairs of digits and nothing else. -/
def decodeChars? : List Char → Option Bytes
  | [] => some []
  | a :: b :: rest =>
    match pair? a b with
    | some byte => (decodeChars? rest).map (byte :: ·)
    | none => none
  | [_] => none

/-- The bytes of a text of digit pairs. -/
def decode? (t : Text) : Option Bytes := t.chars?.bind decodeChars?

/-- An ASCII blank: the space and the controls from tab to carriage return. -/
def isGap (c : Char) : Bool := c.toNat == 32 || (9 ≤ c.toNat && c.toNat ≤ 13)

/-- The bytes of digit pairs with ASCII blanks before, between and after the pairs. -/
def decodeSpaced? : List Char → Option Bytes
  | [] => some []
  | [a] => if isGap a then some [] else none
  | a :: b :: rest =>
    if isGap a then decodeSpaced? (b :: rest)
    else
      match pair? a b with
      | some byte => (decodeSpaced? rest).map (byte :: ·)
      | none => none

theorem value?_digit : ∀ d, d < 16 → value? (digit d) = some d := by decide

theorem decodeChars?_encodeChars (bs : Bytes) : decodeChars? (encodeChars bs) = some bs := by
  induction bs with
  | nil => rfl
  | cons b bs ih =>
    have hb := b.toNat_lt
    have h1 := value?_digit (b.toNat / 16) (by omega)
    have h2 := value?_digit (b.toNat % 16) (by omega)
    have hs : 16 * (b.toNat / 16) + b.toNat % 16 = b.toNat := by omega
    simp only [encodeChars, List.flatMap_cons, List.cons_append, List.nil_append, decodeChars?,
      pair?, h1, h2, hs, UInt8.ofNat_toNat] at ih ⊢
    rw [ih]
    rfl

theorem decode?_encode (bs : Bytes) : decode? (encode bs) = some bs := by
  simp [decode?, encode, Text.ofString, decodeChars?_encodeChars]

theorem isGap_eq_false_of_value? {c : Char} {n : Nat} (h : value? c = some n) :
    isGap c = false := by
  simp only [value?] at h
  split at h
  · simp [isGap]; omega
  · split at h
    · simp [isGap]; omega
    · split at h
      · simp [isGap]; omega
      · cases h

theorem decodeSpaced?_of_decode? {cs : List Char} {bs : Bytes} (h : decodeChars? cs = some bs) :
    decodeSpaced? cs = some bs := by
  fun_induction decodeChars? cs generalizing bs with
  | case1 => simpa [decodeSpaced?] using h
  | case2 a b rest byte hp ih =>
    obtain ⟨t, ht, rfl⟩ := Option.map_eq_some_iff.1 h
    have hg : isGap a = false := by
      unfold pair? at hp
      split at hp
      · rename_i hx _; exact isGap_eq_false_of_value? hx
      · cases hp
    simp [decodeSpaced?, hg, hp, ih ht]
  | case3 => cases h
  | case4 => cases h

end CrossVenue.Hex
