import CrossVenue.Arbitrage.Swaps
import CrossVenue.Proofs.Message.Reading

/-!
# What the swaps of a plan ask for

* `Swap.reader_draft` : a request that is read says what was drafted;
* `Plan.swaps_requests` : both swaps of a plan name their venues, assets and amounts, for one sender.
-/

set_option autoImplicit false

namespace CrossVenue

theorem Schema.required_eq_accepted_iff {α : Type} {fields : Json.Fields} {name : Text}
    {r : Schema.Reader α} {a : α} :
    Schema.required fields name r = .accepted a ↔
      ∃ v, fields.lookup name = some v ∧ r v = .accepted a := by
  unfold Schema.required
  cases h : fields.lookup name with
  | none => simp
  | some v => simp [Checked.under_eq_accepted_iff]

/-- What is drafted is read when its parts are. -/
theorem Swap.reader_draft_eq_accepted_iff {venue pair sender denom amount senderSvm : Json} {swap : Swap} :
    reader (draft venue pair sender denom amount senderSvm) = .accepted swap ↔
      venue = .str swap.venue ∧ pair = .str swap.pair ∧ sender = .str swap.sender ∧
        denom = .str swap.denom ∧ Schema.integer amount = .accepted swap.amount ∧
        Schema.nullable Schema.text senderSvm = .accepted swap.senderSvm := by
  have hfields : reader (draft venue pair sender denom amount senderSvm) =
      ((((((Checked.accepted Swap.mk).and ((Schema.text venue).under (.field "dex_name"))).and
        ((Schema.text pair).under (.field "pool_name"))).and
        ((Schema.text sender).under (.field "sender"))).and
        ((Schema.text denom).under (.field "denom"))).and
        ((Schema.integer amount).under (.field "amount"))).and
        ((Schema.nullable Schema.text senderSvm).under (.field "sender_svm")) := rfl
  simp only [hfields, Checked.and_eq_accepted_iff, Checked.under_eq_accepted_iff,
    Schema.text_eq_accepted_iff]
  constructor
  · rintro ⟨_, svm, ⟨_, n, ⟨_, d, ⟨_, s, ⟨_, p, ⟨_, v, h, hv, rfl⟩, hp, rfl⟩, hs, rfl⟩, hd, rfl⟩,
      hn, rfl⟩, hsvm, rfl⟩
    cases h
    exact ⟨hv, hp, hs, hd, hn, hsvm⟩
  · rintro ⟨hv, hp, hs, hd, hn, hsvm⟩
    exact ⟨_, _, ⟨_, _, ⟨_, _, ⟨_, _, ⟨_, _, ⟨_, _, rfl, hv, rfl⟩, hp, rfl⟩, hs, rfl⟩, hd, rfl⟩, hn,
      rfl⟩, hsvm, rfl⟩

/-- A request that is read says what was drafted, and its sender was given as a text. -/
theorem Swap.reader_draft {venue denom : Text} {pair sender senderSvm : Json} {amount : Int}
    {swap : Swap}
    (h : reader (draft (.str venue) pair sender (.str denom) (.int amount) senderSvm) =
      .accepted swap) :
    swap.venue = venue ∧ sender = .str swap.sender ∧ swap.denom = denom ∧ swap.amount = amount := by
  obtain ⟨hvenue, -, hsender, hdenom, hamount, -⟩ := Swap.reader_draft_eq_accepted_iff.1 h
  cases hvenue
  cases hdenom
  cases hamount
  exact ⟨rfl, hsender, rfl, rfl⟩

/-- **What both swaps of a plan ask for.**  They have the same sender. -/
theorem Plan.swaps_requests {plan : Plan} {pair : Json} {input intermediate : Text} {who : Trader}
    {buy sell : Swap}
    (h : plan.swaps pair (.str input) (.str intermediate) who = .accepted (buy, sell)) :
    ∃ sender, who.sender = .str sender ∧
      (buy.venue = plan.source.venue ∧ buy.denom = input ∧ buy.amount = plan.executeAmount) ∧
      (sell.venue = plan.target.venue ∧ sell.denom = intermediate ∧
        sell.amount = plan.firstOutput) := by
  simp only [swaps, Checked.andThen_eq_accepted_iff, Checked.map_eq_accepted_iff] at h
  obtain ⟨b, hb, s, hs, he⟩ := h
  cases he
  obtain ⟨hbv, hsender, hbd, hba⟩ := Swap.reader_draft hb
  obtain ⟨hsv, -, hsd, hsa⟩ := Swap.reader_draft hs
  exact ⟨_, hsender, ⟨hbv, hbd, hba⟩, hsv, hsd, hsa⟩

end CrossVenue
