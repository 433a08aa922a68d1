import CrossVenue.Encoding.Base58
import CrossVenue.Json.Shown
import CrossVenue.Rejection

/-!
# Public keys

A key is thirty-two bytes and is written in base58.  Keys arrive as keys, as bytes, as text, or as
some other value that is no key at all.

* `ofBytes_eq_ok_iff` : bytes are a key exactly when there are thirty-two of them;
* `ofText_empty` : the empty text is rejected before it is read as a numeral.
-/

set_option autoImplicit false

namespace CrossVenue

/-- A key of thirty-two bytes. -/
@[ext]
structure Pubkey where
  bytes : Bytes
  length_eq : bytes.length = 32
deriving DecidableEq, Repr

/-- What may be given where a key or a seed is needed. -/
inductive RawKey
  | key (k : Pubkey)
  | bytes (bs : Bytes)
  | value (v : Json)

namespace Pubkey

/-- How many bytes a key has. -/
def size : Nat := 32

/-- The base58 text of a key. -/
def toText (k : Pubkey) : Text := Base58.encode k.bytes

/-- The key of thirty-two bytes; other lengths are rejected for the given fault. -/
def ofBytesOr (fault : Nat → AddressFault) (bs : Bytes) : Except Rejection Pubkey :=
  if h : bs.length = 32 then .ok ⟨bs, h⟩ else reject (.address (fault bs.length))

/-- The key of thirty-two bytes. -/
def ofBytes (bs : Bytes) : Except Rejection Pubkey := ofBytesOr (.length size) bs

/-- The key that a text spells. -/
def ofText (s : Text) : Except Rejection Pubkey :=
  if s = "" then reject (.address .emptyText)
  else
    match Base58.decode s with
    | .error .notAscii => reject (.address (.textNotAscii s))
    | .error (.invalidCharacter c) =>
      reject (.address (.textInvalidCharacter s (Text.quoted (Text.ofChars [c]))))
    | .ok bs => ofBytesOr (.textLength s size) bs

/-- The key of a JSON value, which has to be a text. -/
def ofJson : Json → Except Rejection Pubkey
  | .str s => ofText s
  | v => reject (.address (.wrongKind v.kindName))

/-- The key of whatever was given. -/
def ofRaw : RawKey → Except Rejection Pubkey
  | .key k => .ok k
  | .bytes bs => ofBytes bs
  | .value v => ofJson v

theorem ofBytes_eq_ok_iff {bs : Bytes} {k : Pubkey} : ofBytes bs = .ok k ↔ k.bytes = bs := by
  unfold ofBytes ofBytesOr reject
  constructor
  · intro h
    split at h
    · injection h with h
      rw [← h]
    · cases h
  · rintro rfl
    rw [dif_pos k.length_eq]

theorem ofText_empty : ofText "" = .error ⟨.address .emptyText, ""⟩ := rfl

end Pubkey

end CrossVenue
