import CrossVenue.Json.Encoded
import CrossVenue.Json.Writer
import CrossVenue.Message.Plane
import CrossVenue.Failure

/-!
# Instructions for a plane

What is handed to the planes: which plane executes, what it is to do, and a message body, which is
compact JSON in bytes.  On the wire the body is base64.
-/

set_option autoImplicit false

namespace CrossVenue

/-- An instruction for a plane. -/
structure PlaneInstruction where
  plane : Plane
  action : Text
  address : Text
  msg : Bytes
deriving DecidableEq, Repr

namespace PlaneInstruction

/-- The action that invokes a machine. -/
def invokeMachine : Text := "VM_INVOKE"

/-- The action that invokes the bank of the mesh. -/
def invokeCosmos : Text := "COSMOS_INVOKE"

/-- The instruction whose body is the text of a payload. -/
def carrying (plane : Plane) (action : Text) (payload : Json) : PlaneInstruction :=
  ⟨plane, action, "", payload.encode⟩

/-- The instruction whose body is a payload, which has to be written. -/
def ofPayload (room : Room) (plane : Plane) (action : Text) (payload : Json) :
    Attempt PlaneInstruction :=
  match payload.encodeIn room with
  | .ok msg => .ok ⟨plane, action, "", msg⟩
  | .error .tooDeep => breakDown .tooDeep
  | .error .oversized => breakDown .badText

/-- Reads an instruction from its wire form. -/
def reader : Schema.Reader PlaneInstruction := fun v =>
  (Schema.object .modelType v).andThen fun fields =>
    ((((Checked.accepted PlaneInstruction.mk).and
      (Schema.required fields "plane" Plane.reader)).and
      (Schema.required fields "action" Schema.text)).and
      (Schema.defaulted fields "address" "" Schema.text)).and
      (Schema.required fields "msg" Schema.bytes)

/-- The wire form. -/
def toJson (i : PlaneInstruction) : Json :=
  .obj [("plane", .str i.plane.name), ("action", .str i.action), ("address", .str i.address),
    ("msg", .str (Base64.encode i.msg))]

/-- The payload of the body. -/
def payload (room : Room) (i : PlaneInstruction) : Attempt Json :=
  match Json.readBytes room i.msg with
  | .ok v => .ok v
  | .error .notText => breakDown .notUnicode
  | .error (.notRead (.malformed ..)) => breakDown .notJson
  | .error (.notRead (.oversized _)) => breakDown .badText
  | .error (.notRead .tooDeep) => breakDown .tooDeep

end PlaneInstruction

end CrossVenue
