import CrossVenue.Proofs.Arbitrage.Swaps
import CrossVenue.Proofs.Strategy.RoundTrip

/-!
# What a pair means

A round trip is told the name of a pair, and splits it at its first dash; the settlement asset may be on
either side.  A single swap is told two assets, and joins them to the name that ends in the settlement asset.
Both mean the same assets by a name that is joined and splits into what it was joined from.

* `splitPair_eq_iff` : which names split into two assets;
* `Registry.pairOutputDenom_eq_ok_iff`, `Registry.pairOutputDenom_comm` : which assets a name leads to;
* `Strategy.swapPair_eq_ok_iff`, `Strategy.swap_eq_composeSwap` : which name a swap goes through, and what
  the dispatcher is handed;
* `pairs_agree_iff` : when both mean the same.
-/

set_option autoImplicit false

namespace CrossVenue

/-! ## Names that are split -/

/-- Is the name spelled from two assets, the first of which has no dash? -/
def Spells (pair first second : Text) : Prop :=
  CodePoint.char '-' ∉ first.toList ∧ (pair = pairOf first second ∨ pair = first ∧ second = "")

theorem toList_pairOf (first second : Text) :
    (pairOf first second).toList = first.toList ++ .char '-' :: second.toList := by
  rw [pairOf, Text.toList_append, Text.toList_append, List.append_assoc]
  rfl

theorem pairOf_ne_right (first second : Text) : pairOf first second ≠ second := by
  intro h
  have hlength := congrArg (fun t : Text => t.toList.length) h
  simp only [toList_pairOf, List.length_append, List.length_cons] at hlength
  omega

/-- **A name splits into the assets that it is spelled from.** -/
theorem splitPair_eq_iff {pair first second : Text} :
    splitPair pair = (first, second) ↔ Spells pair first second := by
  constructor
  · intro h
    obtain ⟨rfl, rfl⟩ := Prod.mk.inj h
    refine ⟨fun hdash => by simpa using List.mem_takeWhile_imp hdash, ?_⟩
    have hparts := List.takeWhile_append_dropWhile (p := (· ≠ CodePoint.char '-')) (l := pair.toList)
    cases hrest : pair.toList.dropWhile (· ≠ .char '-') with
    | nil =>
      rw [hrest, List.append_nil] at hparts
      exact .inr ⟨Text.ext hparts.symm, rfl⟩
    | cons p rest =>
      -- splitting stops at a dash
      have hstop := List.head?_dropWhile_not (· ≠ CodePoint.char '-') pair.toList
      rw [hrest] at hstop
      obtain rfl : p = .char '-' := by simpa using hstop
      rw [hrest] at hparts
      exact .inl (Text.ext (hparts.symm.trans (toList_pairOf _ _).symm))
  · rintro ⟨hdash, rfl | ⟨rfl, rfl⟩⟩
    · exact splitPair_append hdash
    · have hall : ∀ p ∈ pair.toList, (decide (p ≠ .char '-')) = true := by
        rintro p hp
        exact decide_eq_true fun h => hdash (h ▸ hp)
      have htake := List.takeWhile_eq_self_iff.2 hall
      have hdrop := List.dropWhile_eq_nil_iff.2 hall
      simp only [splitPair, htake, hdrop]
      rfl

theorem spells_pairOf_iff {asset settlement : Text} :
    Spells (pairOf asset settlement) asset settlement ↔ CodePoint.char '-' ∉ asset.toList :=
  and_iff_left (.inl rfl)

/-- A joined name is spelled the other way round only if both ways of joining give one name. -/
theorem spells_pairOf_swap_iff {asset settlement : Text} :
    Spells (pairOf asset settlement) settlement asset ↔
      CodePoint.char '-' ∉ settlement.toList ∧ pairOf asset settlement = pairOf settlement asset :=
  and_congr_right fun _ => or_iff_left fun h => pairOf_ne_right asset settlement h.1

/-! ## Round trips -/

namespace Registry

variable {r : Registry} {input output pair : Text}

/-- **An asset leads to another one through a name that is spelled from both.** -/
theorem pairOutputDenom_eq_ok_iff :
    r.pairOutputDenom input pair = .ok output ↔
      pair ∈ r.pairs ∧ (Spells pair input output ∨ Spells pair output input) := by
  rw [← splitPair_eq_iff, ← splitPair_eq_iff, pairOutputDenom, bind_eq_ok_iff]
  obtain ⟨first, second⟩ := splitPair pair
  simp only [Prod.mk.injEq]
  constructor
  · rintro ⟨⟨⟩, hpair, h⟩
    refine ⟨mustSupport_eq_ok_iff.1 hpair, ?_⟩
    split at h
    · rename_i hinput
      cases h
      exact .inl ⟨hinput.symm, rfl⟩
    · split at h
      · rename_i hinput
        cases h
        exact .inr ⟨rfl, hinput.symm⟩
      · cases h
  · rintro ⟨hpair, hsides⟩
    refine ⟨(), mustSupport_eq_ok_iff.2 hpair, ?_⟩
    rcases hsides with ⟨rfl, rfl⟩ | ⟨rfl, rfl⟩
    · exact if_pos rfl
    · -- both assets may be the same
      by_cases hsame : second = first
      · rw [if_pos hsame, hsame]
      · rw [if_neg hsame, if_pos rfl]

/-- The assets of a pair lead to each other. -/
theorem pairOutputDenom_comm :
    r.pairOutputDenom input pair = .ok output ↔ r.pairOutputDenom output pair = .ok input := by
  rw [pairOutputDenom_eq_ok_iff, pairOutputDenom_eq_ok_iff, or_comm]

end Registry

/-! ## Single swaps -/

/-- Does a request swap the settlement asset for another one, or that one for it? -/
def SwapRequest.Between (q : SwapRequest) (settlement asset : Text) : Prop :=
  q.source = .str settlement ∧ q.target = .str asset ∨
    q.source = .str asset ∧ q.target = .str settlement

/-- Does a request say what a swap says, the pair apart? -/
structure SwapRequest.Asks (q : SwapRequest) (swap : Swap) : Prop where
  venue_eq : q.venue = .str swap.venue
  sender_eq : q.who.sender = .str swap.sender
  source_eq : q.source = .str swap.denom
  amount_read : Schema.integer q.amount = .accepted swap.amount
  svm_read : Schema.nullable Schema.text q.who.senderSvm = .accepted swap.senderSvm

namespace Strategy

variable {s : Strategy} {q : SwapRequest} {asset pair : Text}

theorem settlementPair_eq_ok_iff :
    s.settlementPair (.str asset) = .ok pair ↔
      pair ∈ s.registry.pairs ∧ pair = pairOf asset s.registry.settlementDenom := by
  simp only [settlementPair, bind_eq_ok_iff, requireWritable_eq_ok_iff, lift_eq_ok_iff,
    Json.inSentence, Sentence.text_singleton, Except.ok.injEq]
  constructor
  · rintro ⟨-, -, ⟨⟩, hpair, rfl⟩
    exact ⟨Registry.mustSupport_eq_ok_iff.1 hpair, rfl⟩
  · rintro ⟨hpair, rfl⟩
    exact ⟨(), rfl, (), Registry.mustSupport_eq_ok_iff.2 hpair, rfl⟩

/-- **A swap goes through one name**: that of the two assets, the settlement asset last. -/
theorem swapPair_eq_ok_iff (hq : q.Between s.registry.settlementDenom asset) :
    s.swapPair q.source q.target = .ok pair ↔
      pair ∈ s.registry.pairs ∧ pair = pairOf asset s.registry.settlementDenom := by
  have hother : s.swapPair q.source q.target = s.settlementPair (.str asset) := by
    simp only [swapPair]
    rcases hq with ⟨hsource, htarget⟩ | ⟨hsource, htarget⟩
    · have hsettled := Json.isText_iff.2 hsource
      rw [hsettled, if_pos rfl, htarget]
    · have hsettled := Json.isText_iff.2 htarget
      rw [hsettled, if_pos rfl]
      -- the other asset may be the settlement asset as well
      split
      · rename_i hsame
        rw [htarget, ← Json.isText_iff.1 hsame, hsource]
      · rw [hsource]
  rw [hother, settlementPair_eq_ok_iff]

/-- What goes through a name is composed by the dispatcher as a swap of that pair. -/
theorem swap_eq_composeSwap {room : Room} {swap : Swap} (hpair : s.swapPair q.source q.target = .ok swap.pair)
    (hasks : q.Asks swap) :
    s.swap room q =
      s.dispatcher.composeSwap room swap >>= fun instructions => .ok (.act instructions) := by
  have hread : Swap.reader (Swap.draft q.venue (.str swap.pair) q.who.sender q.source q.amount
      q.who.senderSvm) = .accepted swap :=
    Swap.reader_draft_eq_accepted_iff.2 ⟨hasks.venue_eq, rfl, hasks.sender_eq, hasks.source_eq,
      hasks.amount_read, hasks.svm_read⟩
  simp only [Strategy.swap, hpair]
  change (Swap.reader _).attempt >>= _ = _
  rw [hread]
  rfl

end Strategy

/-! ## Agreement -/

section

variable {s : Strategy} {q : SwapRequest} {asset : Text}

/-- **When round trips and swaps mean the same by a pair.**  A swap goes through a pair that a round trip
reads only if the settlement asset is last in its name, and is then composed for that pair.  A round trip
reads the pair of a swap only if its name splits where it was joined, whichever asset is bought. -/
theorem pairs_agree_iff (hq : q.Between s.registry.settlementDenom asset) (pair : Text) :
    (s.registry.pairOutputDenom s.registry.settlementDenom pair = .ok asset →
      (s.swapPair q.source q.target = .ok pair ↔ pair = pairOf asset s.registry.settlementDenom)) ∧
    (s.swapPair q.source q.target = .ok pair →
      (∀ room swap, swap.pair = pair → q.Asks swap → s.swap room q =
        s.dispatcher.composeSwap room swap >>= fun instructions => .ok (.act instructions)) ∧
      (s.registry.pairOutputDenom s.registry.settlementDenom pair = .ok asset ∧
          s.registry.pairOutputDenom asset pair = .ok s.registry.settlementDenom ↔
        CodePoint.char '-' ∉ asset.toList ∨
          CodePoint.char '-' ∉ s.registry.settlementDenom.toList ∧
            pairOf asset s.registry.settlementDenom = pairOf s.registry.settlementDenom asset)) := by
  constructor
  · intro hread
    have hpair := (Registry.pairOutputDenom_eq_ok_iff.1 hread).1
    rw [Strategy.swapPair_eq_ok_iff hq, and_iff_right hpair]
  · intro hswap
    refine ⟨fun room swap hname hasks => Strategy.swap_eq_composeSwap (hname ▸ hswap) hasks, ?_⟩
    obtain ⟨hpair, rfl⟩ := (Strategy.swapPair_eq_ok_iff hq).1 hswap
    -- both readings are one condition on the name
    rw [and_iff_left_of_imp Registry.pairOutputDenom_comm.1, Registry.pairOutputDenom_eq_ok_iff,
      and_iff_right hpair, spells_pairOf_iff, spells_pairOf_swap_iff, or_comm]

end

/-- A swap for ether and a round trip through it agree on their pair. -/
theorem eth_pair_agrees :
    let q : SwapRequest := ⟨.str "astroport", .str "usdt", .str "eth", .int 1000,
      ⟨.str "lux1trader", .null⟩⟩
    let swap : Swap := ⟨"astroport", "eth-usdt", "lux1trader", "usdt", 1000, none⟩
    q.Between etherStrategy.registry.settlementDenom "eth" ∧ q.Asks swap ∧
    etherStrategy.swapPair q.source q.target = .ok swap.pair ∧
    (∀ room, etherStrategy.swap room q =
      etherStrategy.dispatcher.composeSwap room swap >>= fun instructions => .ok (.act instructions)) ∧
    etherStrategy.registry.pairOutputDenom "usdt" swap.pair = .ok "eth" ∧
    etherStrategy.registry.pairOutputDenom "eth" swap.pair = .ok "usdt" := by
  intro q swap
  have hq : q.Between etherStrategy.registry.settlementDenom "eth" := .inl ⟨rfl, rfl⟩
  have hasks : q.Asks swap := ⟨rfl, rfl, rfl, rfl, rfl⟩
  have hread : etherStrategy.registry.pairOutputDenom "usdt" swap.pair = .ok "eth" := by
    decide +kernel
  obtain ⟨hgoes, hagree⟩ := pairs_agree_iff hq swap.pair
  have hswap := (hgoes hread).2 (by decide +kernel)
  obtain ⟨hcomposed, hreads⟩ := hagree hswap
  exact ⟨hq, hasks, hswap, fun room => hcomposed room swap rfl hasks, hreads.2 (.inl (by decide +kernel))⟩

/-- A strategy whose pairs are two names that are not joined as a swap joins them. -/
def oddStrategy : Strategy :=
  { etherStrategy with registry := { Registry.builtin with pairs := ["usdt-btc", "a-b-usdt"] } }

/-- **Pairs can mean different things**: a round trip reads a pair that no swap goes through, and a swap
goes through a pair that no round trip reads. -/
theorem pair_names_disagree :
    (("usdt-btc" : Text) ∈ oddStrategy.registry.pairs ∧
      oddStrategy.registry.pairOutputDenom oddStrategy.registry.settlementDenom "usdt-btc" =
        .ok "btc" ∧
      oddStrategy.swapPair (.str oddStrategy.registry.settlementDenom) (.str "btc") ≠
        .ok "usdt-btc" ∧
      oddStrategy.swapPair (.str "btc") (.str oddStrategy.registry.settlementDenom) ≠
        .ok "usdt-btc") ∧
    (oddStrategy.swapPair (.str oddStrategy.registry.settlementDenom) (.str "a-b") =
        .ok "a-b-usdt" ∧
      oddStrategy.registry.pairOutputDenom oddStrategy.registry.settlementDenom "a-b-usdt" ≠
        .ok "a-b" ∧
      oddStrategy.registry.pairOutputDenom "a-b" "a-b-usdt" ≠
        .ok oddStrategy.registry.settlementDenom) := by
  decide +kernel

end CrossVenue
