import CrossVenue.Failure
import CrossVenue.Schema.Reader

/-!
# Swap requests

A request to trade an amount of an asset on one venue.
-/

set_option autoImplicit false

namespace CrossVenue

/-- A requested trade. -/
structure Swap where
  /-- The name of the venue. -/
  venue : Text
  /-- The trading pair. -/
  pair : Text
  sender : Text
  /-- The symbol of the asset that goes in. -/
  denom : Text
  amount : Int
  /-- The account of the sender on the SVM plane. -/
  senderSvm : Option Text
deriving DecidableEq, Repr

namespace Swap

/-- The fields of a request that has not been read yet. -/
def draft (venue pair sender denom amount senderSvm : Json) : Json :=
  .obj [("dex_name", venue), ("pool_name", pair), ("sender", sender), ("denom", denom),
    ("amount", amount), ("sender_svm", senderSvm)]

/-- Reads a request. -/
def reader : Schema.Reader Swap := fun v =>
  (Schema.object .modelType v).andThen fun fields =>
    ((((((Checked.accepted Swap.mk).and
      (Schema.required fields "dex_name" Schema.text)).and
      (Schema.required fields "pool_name" Schema.text)).and
      (Schema.required fields "sender" Schema.text)).and
      (Schema.required fields "denom" Schema.text)).and
      (Schema.required fields "amount" Schema.integer)).and
      (Schema.defaulted fields "sender_svm" none (Schema.nullable Schema.text))

/-- The request as a JSON object. -/
def toJson (s : Swap) : Json :=
  draft (.str s.venue) (.str s.pair) (.str s.sender) (.str s.denom) (.int s.amount)
    (Json.ofText? s.senderSvm)

theorem reader_toJson (s : Swap) : reader s.toJson = .accepted s := by
  obtain ⟨venue, pair, sender, denom, amount, svm⟩ := s
  cases svm <;> rfl

end Swap

end CrossVenue
