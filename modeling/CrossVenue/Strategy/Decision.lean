import CrossVenue.Arbitrage.Solver
import CrossVenue.Message.PlaneInstruction

/-!
# Decisions

A strategy either acts, and then says what the planes are to do and in which order, or holds, and then
says why.

* `reason?_eq_none_iff` : only holding has a reason.
-/

set_option autoImplicit false

namespace CrossVenue

/-- Why a strategy holds. -/
inductive HoldReason
  | tooFewPools
  | oneRate
  | notWorthwhile (reason : NoTradeReason)
deriving DecidableEq, Repr

/-- The reason in words. -/
def HoldReason.text : HoldReason → Text
  | tooFewPools => "fewer than two pools quoted"
  | oneRate => "pools are priced identically"
  | notWorthwhile reason => reason.text

/-- What a strategy decides. -/
inductive Decision
  | act (instructions : List PlaneInstruction)
  | hold (why : HoldReason)
deriving DecidableEq, Repr

namespace Decision

/-- The instructions in order. -/
def instructions : Decision → List PlaneInstruction
  | act is => is
  | hold _ => []

/-- Why nothing is done. -/
def reason? : Decision → Option Text
  | act _ => none
  | hold why => some why.text

/-- Is there nothing to do? -/
def isNoop (d : Decision) : Bool := d.instructions.isEmpty

/-- The wire form. -/
def toJson (d : Decision) : Json :=
  .obj [("instructions", .arr (d.instructions.map PlaneInstruction.toJson)),
    ("reason", Json.ofText? d.reason?)]

theorem reason?_eq_none_iff {d : Decision} : d.reason? = none ↔ ∃ is, d = act is := by
  cases d <;> simp [reason?]

end Decision

end CrossVenue
