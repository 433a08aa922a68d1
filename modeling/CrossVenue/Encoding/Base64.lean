import CrossVenue.Bytes
import CrossVenue.Text.Basic

/-!
# Base64 text

Three bytes are four digits of the standard alphabet; the last group is filled up with padding.
Reading is strict about the alphabet and about where padding stands, takes any leftover bits in
the last digit, and lets padding follow a complete group.  `decode?_encode` says that reading
what was written gives the bytes back.
-/

set_option autoImplicit false

namespace CrossVenue.Base64

/-- The digit of a value below sixty-four. -/
def digit (n : Nat) : Char :=
  if n < 26 then Char.ofNat (65 + n)
  else if n < 52 then Char.ofNat (71 + n)
  else if n < 62 then Char.ofNat (n - 4)
  else if n = 62 then '+' else '/'

/-- The value of a digit. -/
def value? (c : Char) : Option Nat :=
  let n := c.toNat
  if 65 ≤ n ∧ n ≤ 90 then some (n - 65)
  else if 97 ≤ n ∧ n ≤ 122 then some (n - 71)
  else if 48 ≤ n ∧ n ≤ 57 then some (n + 4)
  else if c = '+' then some 62
  else if c = '/' then some 63
  else none

/-- The character that fills up the last group. -/
def pad : Char := '='

/-- The digits of the bytes, padded to a multiple of four. -/
def encodeChars : Bytes → List Char
  | [] => []
  | [a] => [digit (a.toNat / 4), digit (a.toNat % 4 * 16), pad, pad]
  | [a, b] =>
    [digit (a.toNat / 4), digit (a.toNat % 4 * 16 + b.toNat / 16), digit (b.toNat % 16 * 4), pad]
  | a :: b :: c :: rest =>
    digit (a.toNat / 4) :: digit (a.toNat % 4 * 16 + b.toNat / 16) ::
      digit (b.toNat % 16 * 4 + c.toNat / 64) :: digit (c.toNat % 64) :: encodeChars rest

/-- The bytes as text. -/
def encode (bs : Bytes) : String := String.ofList (encodeChars bs)

/-- The bytes of groups of four digits, the last of which may be padded; padding alone may follow
a complete group. -/
def decodeGroups? : List Char → Option Bytes
  | [] => some []
  | a :: b :: c :: d :: rest =>
    match value? a, value? b, value? c, value? d with
    | some x, some y, some z, some w =>
      (decodeGroups? rest).map fun bs =>
        UInt8.ofNat (x * 4 + y / 16) :: UInt8.ofNat (y % 16 * 16 + z / 4) ::
          UInt8.ofNat (z % 4 * 64 + w) :: bs
    | some x, some y, some z, none =>
      if d = pad ∧ rest = [] then
        some [UInt8.ofNat (x * 4 + y / 16), UInt8.ofNat (y % 16 * 16 + z / 4)]
      else none
    | some x, some y, none, none =>
      if c = pad ∧ d = pad ∧ rest = [] then some [UInt8.ofNat (x * 4 + y / 16)] else none
    | _, _, _, _ => if (a :: b :: c :: d :: rest).all (· = pad) then some [] else none
  | cs => if cs.all (· = pad) then some [] else none

/-- The bytes of a text; padding may not stand first. -/
def decodeChars? (cs : List Char) : Option Bytes :=
  if cs.head? = some pad then none else decodeGroups? cs

/-- The bytes of a text. -/
def decode? (t : Text) : Option Bytes := t.chars?.bind decodeChars?

theorem value?_digit : ∀ d, d < 64 → value? (digit d) = some d := by decide

theorem digit_ne_pad : ∀ d, d < 64 → digit d ≠ pad := by decide

theorem value?_pad : value? pad = none := by decide

theorem decodeGroups?_encodeChars (bs : Bytes) : decodeGroups? (encodeChars bs) = some bs := by
  fun_induction encodeChars bs with
  | case1 => rfl
  | case2 a =>
    have ha := a.toNat_lt
    have h1 := value?_digit (a.toNat / 4) (by omega)
    have h2 := value?_digit (a.toNat % 4 * 16) (by omega)
    have e1 : a.toNat / 4 * 4 + a.toNat % 4 * 16 / 16 = a.toNat := by omega
    simp only [decodeGroups?, h1, h2, value?_pad, e1, and_self, if_true, UInt8.ofNat_toNat]
  | case3 a b =>
    have ha := a.toNat_lt
    have hb := b.toNat_lt
    have h1 := value?_digit (a.toNat / 4) (by omega)
    have h2 := value?_digit (a.toNat % 4 * 16 + b.toNat / 16) (by omega)
    have h3 := value?_digit (b.toNat % 16 * 4) (by omega)
    have e1 : a.toNat / 4 * 4 + (a.toNat % 4 * 16 + b.toNat / 16) / 16 = a.toNat := by omega
    have e2 : (a.toNat % 4 * 16 + b.toNat / 16) % 16 * 16 + b.toNat % 16 * 4 / 4 = b.toNat := by
      omega
    simp only [decodeGroups?, h1, h2, h3, value?_pad, e1, e2, and_self, if_true, UInt8.ofNat_toNat]
  | case4 a b c rest ih =>
    have ha := a.toNat_lt
    have hb := b.toNat_lt
    have hc := c.toNat_lt
    have h1 := value?_digit (a.toNat / 4) (by omega)
    have h2 := value?_digit (a.toNat % 4 * 16 + b.toNat / 16) (by omega)
    have h3 := value?_digit (b.toNat % 16 * 4 + c.toNat / 64) (by omega)
    have h4 := value?_digit (c.toNat % 64) (by omega)
    have e1 : a.toNat / 4 * 4 + (a.toNat % 4 * 16 + b.toNat / 16) / 16 = a.toNat := by omega
    have e2 : (a.toNat % 4 * 16 + b.toNat / 16) % 16 * 16 +
        (b.toNat % 16 * 4 + c.toNat / 64) / 4 = b.toNat := by omega
    have e3 : (b.toNat % 16 * 4 + c.toNat / 64) % 4 * 64 + c.toNat % 64 = c.toNat := by omega
    simp only [decodeGroups?, h1, h2, h3, h4, ih, e1, e2, e3, Option.map_some, UInt8.ofNat_toNat]

theorem decode?_encode (bs : Bytes) : decode? (encode bs) = some bs := by
  have h : (encodeChars bs).head? ≠ some pad := by
    match bs with
    | [] => simp [encodeChars]
    | [a] =>
      have := a.toNat_lt
      simpa [encodeChars] using digit_ne_pad (a.toNat / 4) (by omega)
    | [a, _] =>
      have := a.toNat_lt
      simpa [encodeChars] using digit_ne_pad (a.toNat / 4) (by omega)
    | a :: _ :: _ :: _ =>
      have := a.toNat_lt
      simpa [encodeChars] using digit_ne_pad (a.toNat / 4) (by omega)
  simp [decode?, encode, Text.ofString, decodeChars?, h, decodeGroups?_encodeChars]

end CrossVenue.Base64
