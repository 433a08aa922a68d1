import CrossVenue.Encoding.Unicode
import CrossVenue.Json.Reader

/-!
# JSON in bytes

Bytes hold JSON in any of the Unicode encodings; a byte order mark may lead them.
-/

set_option autoImplicit false

namespace CrossVenue.Json

/-- Why bytes are not read. -/
inductive EncodedFault
  | notText
  | notRead (fault : Fault)
deriving DecidableEq, Repr

/-- The value that bytes hold. -/
def readBytes (room : Room) (bs : Bytes) : Except EncodedFault Json :=
  match Unicode.decode? bs with
  | none => .error .notText
  | some s => (read room s).mapError .notRead

end CrossVenue.Json
