import CrossVenue.Message.PlaneInstruction
import CrossVenue.Proofs.Json.Depth
import CrossVenue.Transaction.Builder

/-!
# Messages read back

What a plane gets is a message of bytes.  It is read along paths of field names, down to texts and to
amounts in decimal digits.

* `eq_carrying_of_ofPayload`, `ofPayload_of_isReadable` : what an instruction carries;
* `body?_carrying` : the body of an instruction is its payload, with halves joined;
* `amountOf?_repr` : a written amount is read back.
-/

set_option autoImplicit false

namespace CrossVenue

theorem Text.ofString_beq (s t : String) : (ofString s == ofString t) = (s == t) := by
  rw [Bool.eq_iff_iff]
  simp only [beq_iff_eq, ofString_inj]

namespace Json

/-- The value at the end of a path of field names. -/
def at? : Json → List Text → Option Json
  | v, [] => some v
  | v, name :: rest => (v.field? name).bind fun w => w.at? rest

/-- The text at the end of a path. -/
def textAt? (v : Json) (path : List Text) : Option Text := (v.at? path).bind textOf?

/-- The amount that a text spells. -/
def amountOf? (t : Text) : Option Nat := (Text.readInteger? t).bind Int.toNat?

/-- The amount that the text at the end of a path spells. -/
def amountAt? (v : Json) (path : List Text) : Option Nat := (v.textAt? path).bind amountOf?

theorem amountOf?_repr {n : Nat} (h : n < Number.tooLong) : amountOf? n.repr = some n := by
  rw [amountOf?, ← Nat.toString_eq_repr, Text.readInteger?_toString h]
  rfl

end Json

namespace PlaneInstruction

variable {plane : Plane} {action : Text} {payload : Json}

/-- Whatever is composed carries its payload. -/
theorem eq_carrying_of_ofPayload {room : Room} {i : PlaneInstruction}
    (h : ofPayload room plane action payload = .ok i) : i = carrying plane action payload := by
  unfold ofPayload at h
  split at h
  · rename_i msg hmsg
    cases Json.eq_encode_of_encodeIn hmsg
    cases h
    rfl
  · cases h
  · cases h

theorem ofPayload_of_isReadable {room : Room} (h : payload.IsReadable room.levels) :
    ofPayload room plane action payload = .ok (carrying plane action payload) := by
  rw [ofPayload, Json.encodeIn_of_isReadable h]
  rfl

/-- The value that the message of an instruction holds, for whoever reads it. -/
def body? (i : PlaneInstruction) : Option Json := (Json.readBytes .least i.msg).toOption

theorem body?_carrying (h : payload.IsReadable Room.least.levels) :
    (carrying plane action payload).body? = some payload.rejoined := by
  show (Json.readBytes _ payload.encode).toOption = _
  rw [Json.readBytes_encode h]
  rfl

end PlaneInstruction

end CrossVenue
