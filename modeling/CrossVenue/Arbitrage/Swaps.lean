import CrossVenue.Arbitrage.Solver
import CrossVenue.Message.Swap

/-!
# The swaps of a plan

A plan is executed by two swaps: the settlement asset buys the other asset on the source, and what was
bought is sold on the target.

* `swaps_amounts` : the first swap offers what the plan executes, the second what the first one gives.
-/

set_option autoImplicit false

namespace CrossVenue

/-- Who trades, as it was given: an account, and the account linked to it on the SVM plane. -/
structure Trader where
  sender : Json
  senderSvm : Json

namespace Plan

/-- The request that buys on the source. -/
def buyRequest (plan : Plan) (pair input : Json) (who : Trader) : Json :=
  Swap.draft (.str plan.source.venue) pair who.sender input (.int plan.executeAmount) who.senderSvm

/-- The request that sells on the target. -/
def sellRequest (plan : Plan) (pair intermediate : Json) (who : Trader) : Json :=
  Swap.draft (.str plan.target.venue) pair who.sender intermediate (.int plan.firstOutput)
    who.senderSvm

/-- Both swaps of a plan; the second is read once the first is good. -/
def swaps (plan : Plan) (pair input intermediate : Json) (who : Trader) : Checked (Swap × Swap) :=
  (Swap.reader (plan.buyRequest pair input who)).andThen fun buy =>
    (Swap.reader (plan.sellRequest pair intermediate who)).map fun sell => (buy, sell)

theorem draft_amount {venue pair sender denom senderSvm : Json} {amount : Int} {swap : Swap}
    (h : Swap.reader (Swap.draft venue pair sender denom (.int amount) senderSvm) =
      .accepted swap) : swap.amount = amount := by
  simp only [Swap.reader, Swap.draft, Schema.object, Checked.andThen, Checked.and_eq_accepted_iff] at h
  obtain ⟨_, _, ⟨_, n, ⟨_, _, ⟨_, _, ⟨_, _, ⟨_, _, h0, _, rfl⟩, _, rfl⟩, _, rfl⟩, _, rfl⟩, hn, rfl⟩,
    _, rfl⟩ := h
  injection h0 with h0
  subst h0
  simp only [Schema.required] at hn
  injection hn with hn
  exact hn.symm

theorem swaps_amounts {plan : Plan} {pair input intermediate : Json} {who : Trader}
    {buy sell : Swap} (h : plan.swaps pair input intermediate who = .accepted (buy, sell)) :
    buy.amount = plan.executeAmount ∧ sell.amount = plan.firstOutput := by
  simp only [swaps, Checked.andThen_eq_accepted_iff, Checked.map_eq_accepted_iff] at h
  obtain ⟨b, hb, s, hs, he⟩ := h
  injection he with h1 h2
  subst h1 h2
  exact ⟨draft_amount hb, draft_amount hs⟩

end Plan

end CrossVenue
