import CrossVenue.Rejection
import CrossVenue.Schema.Checked

/-!
# Failures

A computation over untrusted values fails in one of three ways: the domain rejects the input, a
schema lists its issues, or the computation breaks down on a value that no rule foresees.  A rejection
whose message holds an integer that cannot be written is a breakdown too.

* `failure_of_isWritable` : all other rejections are reported as they are;
* `requireWritable` : a line that has to be written.
-/

set_option autoImplicit false

namespace CrossVenue

/-- How a computation breaks down on a value that no rule foresees. -/
inductive Breakdown
  /-- A table is asked for a key that it does not hold. -/
  | missingKey
  /-- A list is asked for an item at a place that it does not have. -/
  | missingItem
  /-- A value of one kind stands where another kind is needed. -/
  | wrongKind
  /-- A text does not spell what it should. -/
  | badText
  /-- A thing is asked for what it cannot do. -/
  | unsupported
  /-- A number is outside of what it has to become: an integer, a floating-point number, a length. -/
  | notFinite
  /-- A thing has no room in memory. -/
  | outOfMemory
  /-- Bytes are no text. -/
  | notUnicode
  /-- A text is no JSON. -/
  | notJson
  /-- A number does not fit the word that it is written to. -/
  | outOfWord
  /-- A number that is no integer is written to a word. -/
  | notWhole
  /-- A value of one kind cannot be encoded as another. -/
  | notEncodable
  /-- A value is nested too deep to be read or written. -/
  | tooDeep
  /-- A text that is not plain has no bytes. -/
  | notPlain
  /-- An answer that is not plain cannot be sent. -/
  | unsendable
  /-- The system does not take a name. -/
  | refusedName
deriving DecidableEq, Repr

/-- Why a computation fails. -/
inductive Failure
  | rejected (reason : Rejection)
  | invalid (issues : List Issue)
  | broken (how : Breakdown)
deriving DecidableEq, Repr

/-- The result of a computation that may fail. -/
abbrev Attempt (α : Type) := Except Failure α

/-- A rejection as a failure; one whose message cannot be written is a breakdown. -/
def Rejection.failure (r : Rejection) : Failure :=
  if r.isWritable then .rejected r else .broken .badText

instance : MonadLift (Except Rejection) (Except Failure) where
  monadLift x := x.mapError Rejection.failure

/-- The accepted value, or a failure that lists the issues. -/
def Checked.attempt {α : Type} : Checked α → Attempt α
  | .accepted a => .ok a
  | .refused issues => .error (.invalid issues)

/-- A rejection as a failure. -/
def failWith {α : Type} (cause : Cause) : Attempt α := .error (Rejection.failure ⟨cause, ""⟩)

/-- A rejection at a venue as a failure. -/
def failAt {α : Type} (venue : Text) (cause : Cause) : Attempt α :=
  .error (Rejection.failure ⟨cause, venue⟩)

theorem failure_of_isWritable {r : Rejection} (h : r.isWritable = true) :
    r.failure = .rejected r := by
  simp [Rejection.failure, h]

/-- A breakdown as a failure. -/
def breakDown {α : Type} (how : Breakdown) : Attempt α := .error (.broken how)

/-- Writes a line; one that cannot be written is a breakdown.  This stands for the lines of a log too,
which are put together before it is known whether anybody reads them. -/
def requireWritable (line : Sentence) : Attempt Unit :=
  if line.isWritable then .ok () else breakDown .badText

theorem requireWritable_eq_ok_iff {line : Sentence} {u : Unit} :
    requireWritable line = .ok u ↔ line.isWritable = true := by
  unfold requireWritable breakDown
  split <;> simp_all

end CrossVenue
