import CrossVenue.Json.Scalar
import CrossVenue.Message.PlaneInstruction
import CrossVenue.Registry.Basic

/-!
# Transfers between planes

An amount moves from one plane to another through the bank of the mesh.  Assets with a decimal factor
have fewer units on the SVM plane: leaving it by mint divides the amount, entering it by symbol rounds
the amount down to what can be moved.  Denoms of the EVM and SVM planes carry a lead in the bank.

* `movable_le` : a transfer never moves more than was asked for;
* `composeValue_int` : integers among values are moved as amounts are.
-/

set_option autoImplicit false

namespace CrossVenue.Transfer

/-- The type of the bank's message. -/
def messageType : Text := "/flux.astromesh.v1beta1.MsgAstroTransfer"

/-- The lead of denoms of the EVM and SVM planes. -/
def bankLead : Text := "astro/"

/-- The plane that a value names. -/
def planeOf (v : Json) : Except Rejection Plane :=
  match v with
  | .str s =>
    match Plane.ofName? s with
    | some p => .ok p
    | none => reject (.venue (.unknownPlane [s]))
  | v => reject (.venue (.unknownPlane v.inSentence))

/-- The factor of the asset with a mint; one if there is none. -/
def factorOfMint (r : Registry) (denom : Json) : Nat :=
  match r.denoms.values.find? fun d =>
      match nonEmpty? d.svmMint with
      | some mint => denom.isText mint
      | none => false with
  | some d => d.decimalFactor.val
  | none => 1

/-- The factor of the asset with a symbol; one if there is none.  Lists and objects are no keys. -/
def factorOfSymbol (r : Registry) (denom : Json) : Attempt Nat :=
  match denom with
  | .str s =>
    match r.denoms.lookup s with
    | some d => .ok d.decimalFactor.val
    | none => .ok 1
  | .arr _ => breakDown .wrongKind
  | .obj _ => breakDown .wrongKind
  | _ => .ok 1

/-- What an amount is divided by when a plane is left. -/
def leavingFactor (r : Registry) (source : Plane) (denom : Json) : Nat :=
  match source with
  | .svm => factorOfMint r denom
  | _ => 1

/-- What an amount has to be a multiple of when a plane is entered. -/
def enteringFactor (r : Registry) (target : Plane) (denom : Json) : Attempt Nat :=
  match target with
  | .svm => factorOfSymbol r denom
  | _ => .ok 1

/-- The part of an amount that can be moved, in units of the plane that is entered. -/
def movable (leaving entering amount : Nat) : Nat := amount / leaving / entering * entering

/-- The denom as the bank knows it. -/
def bankDenom (source : Plane) (denom : Json) : Attempt Json :=
  if source = .evm ∨ source = .svm then
    match denom with
    | .str s => .ok (.str (bankLead ++ s))
    | _ => breakDown .wrongKind
  else .ok denom

/-- The payload of a transfer. -/
def payload (sender : Json) (source target : Plane) (denom : Json) (amount : Text) : Json :=
  .obj [("@type", .str messageType), ("sender", sender), ("receiver", sender),
    ("src_plane", .str source.name), ("dst_plane", .str target.name),
    ("coin", .obj [("denom", denom), ("amount", .str amount)])]

/-- What the log says of a transfer. -/
def sentLine (source target : Plane) (denom : Json) (amount : Text) : Sentence :=
  .join ["astro transfer ", amount, " ", denom.inSentence, ": ", source.name, " -> ", target.name]

/-- The instruction that moves an amount between planes, once the amount is known. -/
def send (room : Room) (sender : Json) (source target : Plane) (denom : Json) (amount : Text) :
    Attempt PlaneInstruction := do
  let denom ← bankDenom source denom
  requireWritable (sentLine source target denom amount)
  PlaneInstruction.ofPayload room .cosmos PlaneInstruction.invokeCosmos
    (payload sender source target denom amount)

/-- The instruction that moves an amount of a denom between planes. -/
def compose (room : Room) (r : Registry) (sender source target denom : Json) (amount : Int) :
    Attempt PlaneInstruction := do
  let source ← (planeOf source : Except Rejection Plane)
  let target ← (planeOf target : Except Rejection Plane)
  if amount < 0 then failWith (.pool (.negativeTransfer amount))
  else
    let entering ← enteringFactor r target denom
    let moved := movable (leavingFactor r source denom) entering amount.toNat
    if maxWord128 < moved then failWith (.pool (.transferOverflow moved))
    else send room sender source target denom (toString moved)

/-- The part of a number that can be moved; factors of one leave it as it was given. -/
def movableOf (leaving entering : Nat) (amount : Scalar) : Attempt Scalar := do
  let left ← if leaving = 1 then pure amount else amount.floorQuotient leaving
  if entering = 1 then .ok left
  else do
    let times ← left.floorQuotient entering
    times.product entering

/-- The instruction for an amount that may be any value. -/
def composeValue (room : Room) (r : Registry) (sender source target denom amount : Json) :
    Attempt PlaneInstruction :=
  match amount with
  | .int n => compose room r sender source target denom n
  | amount => do
    let source ← (planeOf source : Except Rejection Plane)
    let target ← (planeOf target : Except Rejection Plane)
    let n ← amount.scalar
    if n.isBelow 0 then failWith (.pool (.negativeTransfer n.piece))
    else
      let leaving := leavingFactor r source denom
      let entering ← enteringFactor r target denom
      let moved ← movableOf leaving entering n
      if moved.isAbove maxWord128 then failWith (.pool (.transferOverflow moved.piece))
      else send room sender source target denom moved.piece.written

theorem movable_le (leaving entering amount : Nat) : movable leaving entering amount ≤ amount :=
  Nat.le_trans (Nat.div_mul_le_self _ _) (Nat.div_le_self _ _)

theorem composeValue_int (room : Room) (r : Registry) (sender source target denom : Json)
    (amount : Int) : composeValue room r sender source target denom (.int amount) =
      compose room r sender source target denom amount := rfl

end CrossVenue.Transfer
