import CrossVenue.Failure
import CrossVenue.Json.Reader
import CrossVenue.Schema.Reader

/-!
# Account records

An account of the SVM plane as a query returns it: an object, or JSON text of one, whose binary fields
are base64.
-/

set_option autoImplicit false

namespace CrossVenue

/-- An account of the SVM plane. -/
structure AccountRecord where
  pubkey : Bytes
  owner : Bytes
  lamports : Int
  data : Bytes
  executable : Bool
  rentEpoch : Int
deriving DecidableEq, Repr

namespace AccountRecord

open Schema in
/-- Reads a record. -/
def reader : Reader AccountRecord := fun v =>
  (object .modelType v).andThen fun fields =>
    ((((((Checked.accepted AccountRecord.mk).and
      (required fields "pubkey" bytes)).and
      (required fields "owner" bytes)).and
      (required fields "lamports" integer)).and
      (required fields "data" bytes)).and
      (defaulted fields "executable" false boolean)).and
      (defaulted fields "rent_epoch" 0 integer)

/-- The record of an object. -/
def ofObject (v : Json) : Attempt AccountRecord :=
  match reader v with
  | .accepted r => .ok r
  | .refused _ => failWith (.state .accountRecord)

/-- The record of an object or of JSON text. -/
def ofJson (room : Room) : Json → Attempt AccountRecord
  | .obj fields => ofObject (.obj fields)
  | .str s =>
    match Json.read room s with
    | .ok v => ofObject v
    | .error .tooDeep => breakDown .tooDeep
    | .error _ => failWith (.state .accountRecord)
  | _ => breakDown .wrongKind

end AccountRecord

end CrossVenue
