import CrossVenue.Schema.Reader
import CrossVenue.Transaction.Compiled

/-!
# Transactions on the wire

A transaction is an object; the program's position is a list of one item, and data are base64.  The
reader also takes a position by itself.
-/

set_option autoImplicit false

namespace CrossVenue

open Schema in
/-- A position, by itself or as the only item of a list. -/
def soleIndex : Reader Int
  | .arr [v] => integer v
  | .arr _ => .refuse .valueError
  | v => integer v

namespace AccountReference

/-- The wire form of a reference. -/
def toJson (r : AccountReference) : Json :=
  .obj [("id_index", .int r.idIndex), ("caller_index", .int r.callerIndex),
    ("callee_index", .int r.calleeIndex), ("is_signer", .bool r.isSigner),
    ("is_writable", .bool r.isWritable)]

open Schema in
/-- Reads a reference. -/
def reader : Reader AccountReference := fun v =>
  (object .modelType v).andThen fun fields =>
    (((((Checked.accepted AccountReference.mk).and
      (required fields "id_index" integer)).and
      (required fields "caller_index" integer)).and
      (required fields "callee_index" integer)).and
      (required fields "is_signer" boolean)).and
      (required fields "is_writable" boolean)

end AccountReference

namespace CompiledInstruction

/-- The wire form of an instruction. -/
def toJson (ix : CompiledInstruction) : Json :=
  .obj [("program_index", .arr [.int ix.programIndex]),
    ("accounts", .arr (ix.accounts.map AccountReference.toJson)),
    ("data", .str (Base64.encode ix.data))]

open Schema in
/-- Reads an instruction. -/
def reader : Reader CompiledInstruction := fun v =>
  (object .modelType v).andThen fun fields =>
    (((Checked.accepted CompiledInstruction.mk).and
      (required fields "program_index" soleIndex)).and
      (defaulted fields "accounts" [] (listOf AccountReference.reader))).and
      (defaulted fields "data" [] bytes)

end CompiledInstruction

namespace Transaction

/-- The wire form of a transaction. -/
def toJson (tx : Transaction) : Json :=
  .obj [("signers", Json.strings tx.signers), ("accounts", Json.strings tx.accounts),
    ("instructions", .arr (tx.instructions.map CompiledInstruction.toJson)),
    ("compute_budget", .int tx.computeBudget)]

open Schema in
/-- Reads a transaction. -/
def reader : Reader Transaction := fun v =>
  (object .modelType v).andThen fun fields =>
    ((((Checked.accepted Transaction.mk).and
      (required fields "signers" (listOf text))).and
      (required fields "accounts" (listOf text))).and
      (required fields "instructions" (listOf CompiledInstruction.reader))).and
      ((required fields "compute_budget" (upTo maxWord64 .lessThanEqual)).map Subtype.val)

end Transaction

end CrossVenue
