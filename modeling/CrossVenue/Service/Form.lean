import CrossVenue.Strategy.Basic
import CrossVenue.Transaction.Builder

/-!
# Forms

The bodies that the service takes, with the bounds on their fields.  Inside a body, what is no object
where one is needed breaks the rule of attributes.
-/

set_option autoImplicit false

namespace CrossVenue.Form

open Schema

/-- The fields of an object inside a body. -/
def fields : Reader Json.Fields := object .modelAttributesType

/-- A text, as a value. -/
def textValue : Reader Json := fun v => (text v).map Json.str

/-- An integer that is not below zero. -/
def natural : Reader Int := fun v => (atLeast 0 v).map fun n => (n.val : Int)

/-- The name of a convention that pools have. -/
def convention : Reader FeeConvention :=
  named fun s =>
    match FeeConvention.ofName s with
    | .other _ => none
    | known => some known

/-- A quoted pool. -/
def listing : Reader Listing := fun v =>
  (fields v).andThen fun fs =>
    (((((((((Checked.accepted fun venue plane a b rate convention denomA denomB granularity =>
        Listing.mk venue plane a b rate convention denomA denomB granularity).and
      (required fs "dex_name" text)).and
      (required fs "venue_plane" (fun w => (Plane.reader w).map fun p => (p.name : Text)))).and
      (required fs "reserve_a" natural)).and
      (required fs "reserve_b" natural)).and
      (required fs "fee_rate" (fun w => (upTo feeScale .lessThanEqual w).map fun n =>
        (n.val : Int)))).and
      (required fs "fee_convention" convention)).and
      (defaulted fs "denom_a" (.str "") textValue)).and
      (defaulted fs "denom_b" (.str "") textValue)).and
      (defaulted fs "b_granularity" 1 (fun w => (atLeast 1 w).map fun n => (n.val : Int)))

/-- Any object, as it is. -/
def document : Reader Json := fun v => (object .dictType v).map Json.obj

/-- What queries returned about the pools of a pair. -/
def pairState : Reader PairState := fun v =>
  (fields v).andThen fun fs =>
    (((Checked.accepted PairState.mk).and
      (required fs "astroport_pool" document)).and
      (required fs "raydium_accounts" (fun w => (listOf document w).map Json.arr))).and
      (defaulted fs "uniswap_reserves" none (nullable (listOf integer)))

/-- A trader in two fields. -/
def trader (fs : Json.Fields) : Checked Trader :=
  ((Checked.accepted fun sender svm => Trader.mk (.str sender) (Json.ofText? svm)).and
    (required fs "sender" text)).and
    (defaulted fs "sender_svm" none (nullable text))

/-- A request for arbitrage, with the pools that are quoted in it or the state to quote them from. -/
structure Arbitrage where
  request : ArbitrageRequest
  pools : List Listing
  state : Option PairState

/-- Reads a request for arbitrage. -/
def arbitrage : Reader Arbitrage := fun v =>
  (fields v).andThen fun fs =>
    ((((((Checked.accepted fun pair amount least who pools state =>
        Arbitrage.mk ⟨pair, amount, who, least⟩ pools state).and
      (required fs "pair" text)).and
      (required fs "amount" natural)).and
      (defaulted fs "min_profit" none (nullable integer))).and
      (trader fs)).and
      (defaulted fs "pools" [] (listOf listing))).and
      (defaulted fs "state" none (nullable pairState))

/-- Reads a request for a single swap. -/
def swap : Reader SwapRequest := fun v =>
  (fields v).andThen fun fs =>
    (((((Checked.accepted SwapRequest.mk).and
      (required fs "dex_name" textValue)).and
      (required fs "src_denom" textValue)).and
      (required fs "dst_denom" textValue)).and
      (required fs "amount" (fun w => (natural w).map Json.int))).and
      (trader fs)

/-- Bytes as base64 text. -/
def base64 : Reader Bytes := fun v =>
  (text v).andThen fun s =>
    match Base64.decode? s with
    | some bs => .accepted bs
    | none => .refuse .valueError

/-- A list of base64 texts; a bad one breaks a rule of the list. -/
def seeds : Reader (List Bytes) := fun v =>
  (listOf text v).andThen fun ss =>
    match ss.mapM Base64.decode? with
    | some bs => .accepted bs
    | none => .refuse .valueError

/-- Seeds and a program, from which an address is derived. -/
structure Derivation where
  seeds : List Bytes
  program : Text

/-- Reads seeds and a program. -/
def derivation : Reader Derivation := fun v =>
  (fields v).andThen fun fs =>
    ((Checked.accepted Derivation.mk).and
      (defaulted fs "seeds" [] seeds)).and
      (required fs "program_id" text)

/-- An account of an instruction. -/
def account : Reader (AccountMeta Json Json) := fun v =>
  (fields v).andThen fun fs =>
    (((Checked.accepted fun key signs written =>
        AccountMeta.mk (Json.str key) (Json.bool signs) (Json.bool written)).and
      (required fs "pubkey" text)).and
      (defaulted fs "is_signer" false boolean)).and
      (defaulted fs "is_writable" false boolean)

/-- An instruction. -/
def instruction : Reader (Instruction Json Json) := fun v =>
  (fields v).andThen fun fs =>
    (((Checked.accepted fun program => Instruction.mk (Json.str program)).and
      (required fs "program_id" text)).and
      (defaulted fs "accounts" [] (listOf account))).and
      (defaulted fs "data" [] base64)

/-- Instructions to compile. -/
structure Batch where
  instructions : List (Instruction Json Json)
  signers : List Text
  budget : Option Int

/-- Reads instructions to compile. -/
def batch : Reader Batch := fun v =>
  (fields v).andThen fun fs =>
    (((Checked.accepted Batch.mk).and
      (required fs "instructions" (listOf instruction))).and
      (required fs "signers" (listOf text))).and
      (defaulted fs "compute_budget" none (nullable integer))

end CrossVenue.Form
