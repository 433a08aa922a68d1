import CrossVenue.Proofs.Pool.Run
import CrossVenue.Steps

/-!
# Pools with their assets exchanged

A pool without steps treats both of its assets alike.  Exchanging them and trading in the opposite
direction is trading as before: quotes are the same, with the same rejections, and trades lead to pools
whose assets are exchanged again.  Only the rejection of a reserve that gets too large tells the two
apart, for it names the reserve.

* `quote_mirrored` : quotes, whatever they answer;
* `trade_mirrored` : a trade, whether it succeeds or not;
* `runSteps_tradeStep` : the pool of a run, beside the answers to its trades;
* `runSteps_mirrored` : a run, trade by trade;
* `directions_mirror` : all of these, of the pool that exchanging gives.
-/

set_option autoImplicit false

namespace CrossVenue.Pool

variable {p q : Pool}

/-! ## The exchanged pool -/

/-- The pool with its assets exchanged, whatever its steps are. -/
def mirrored (p : Pool) : Pool :=
  { p with
    reserveA := p.reserveB
    reserveB := p.reserveA
    denomA := p.denomB
    denomB := p.denomA
    reserveA_le := p.reserveB_le
    reserveB_le := p.reserveA_le }

@[simp]
theorem mirrored_mirrored (p : Pool) : p.mirrored.mirrored = p := rfl

theorem granularity_mirrored (h : p.granularity = 1) : p.mirrored.granularity = 1 := h

theorem reversed_eq_ok_iff : p.reversed = .ok q ↔ p.granularity = 1 ∧ q = p.mirrored := by
  unfold reversed
  split
  · rename_i hg
    exact iff_of_false (fun h => by cases h) fun h => hg h.1
  · rename_i hg
    rw [Except.ok.injEq]
    exact ⟨fun h => ⟨Decidable.not_not.1 hg, h.symm⟩, fun h => h.2.symm⟩

theorem reserveIn_mirrored (p : Pool) (d : Direction) :
    p.mirrored.reserveIn d = p.reserveIn d.flip := by
  cases d <;> rfl

theorem reserveOut_mirrored (p : Pool) (d : Direction) :
    p.mirrored.reserveOut d = p.reserveOut d.flip := reserveIn_mirrored p d.flip

theorem denomOut_mirrored (p : Pool) (d : Direction) :
    p.mirrored.denomOut d = p.denomOut d.flip := by
  cases d <;> rfl

theorem terms_mirrored (h : q.terms = p.terms) : q.mirrored.terms = p.mirrored.terms := by
  simp only [terms, listing, Listing.mk.injEq, true_and] at h ⊢
  obtain ⟨hv, hp, hf, hc, ha, hb, hg⟩ := h
  exact ⟨hv, hp, hf, hc, hb, ha, hg⟩

/-! ## Quotes -/

theorem outputFeeQuote_mirrored (h : p.granularity = 1) (d : Direction) (x : Nat) :
    p.mirrored.outputFeeQuote d x = p.outputFeeQuote d.flip x := by
  have h' := granularity_mirrored h
  simp only [outputFeeQuote, roundedInput_of_one h, roundedInput_of_one h', reserveIn_mirrored,
    reserveOut_mirrored]
  rfl

theorem inputFeeQuote_mirrored (h : p.granularity = 1) (d : Direction) (x : Nat) :
    p.mirrored.inputFeeQuote d x = p.inputFeeQuote d.flip x := by
  have h' := granularity_mirrored h
  simp only [inputFeeQuote, roundedInput_of_one h, roundedInput_of_one h', reserveIn_mirrored,
    reserveOut_mirrored]
  rfl

theorem rawQuote_mirrored (h : p.granularity = 1) (d : Direction) (x : Nat) :
    p.mirrored.rawQuote d x = p.rawQuote d.flip x := by
  have hc : p.mirrored.convention = p.convention := rfl
  unfold rawQuote
  rw [hc]
  split
  · exact outputFeeQuote_mirrored h d x
  · exact inputFeeQuote_mirrored h d x
  · rfl

/-- **Quotes are the same in the opposite direction**, and so are their rejections. -/
theorem quote_mirrored (h : p.granularity = 1) (x : Int) (d : Direction) :
    p.mirrored.quote x d = p.quote x d.flip := by
  have h' := granularity_mirrored h
  simp only [quote, rawQuote_mirrored h, roundedOutput_of_one h, roundedOutput_of_one h']
  rfl

/-! ## Trades -/

/-- The name of the reserve that takes up what goes in. -/
def creditName : Direction → Text
  | .aToB => "reserve_a"
  | .bToA => "reserve_b"

/-- The rejection of a credit that makes a reserve too large. -/
def creditTooLarge (d : Direction) (credited : Int) : Rejection :=
  ⟨.pool (.overflow (creditName d) credited), ""⟩

theorem trade_eq_error_of_quote {x : Int} {d : Direction} {e : Rejection}
    (h : p.quote x d = .error e) : p.trade x d = .error e := by
  rw [trade, h]
  rfl

/-- Reserves that are not negative are rejected only if one is too large. -/
theorem withReserves_eq_error {a b : Int} {e : Rejection} (ha : 0 ≤ a) (hb : 0 ≤ b)
    (h : p.withReserves a b = .error e) :
    ((maxWord : Int) < a ∧ e = creditTooLarge .aToB a) ∨
      ((maxWord : Int) < b ∧ e = creditTooLarge .bToA b) := by
  have hrate := p.feeRate_le
  have hstep := p.granularity_pos
  unfold withReserves Listing.toPool at h
  split at h
  · rename_i hnegative
    have : a < 0 ∨ b < 0 := hnegative
    omega
  split at h
  · rename_i hoff
    have : (p.feeRate : Int) < 0 ∨ (feeScale : Int) < p.feeRate := hoff
    omega
  split at h
  · rename_i hsmall
    have : (p.granularity : Int) < 1 := hsmall
    omega
  split at h
  · rename_i hlarge
    exact .inl ⟨hlarge, (Except.error.inj h).symm⟩
  split at h
  · rename_i hlarge
    exact .inr ⟨hlarge, (Except.error.inj h).symm⟩
  · cases h

/-- A trade is rejected for its quote, or else for its credit: what it debits is in the pool. -/
theorem trade_eq_error {x : Int} {d : Direction} {e : Rejection} (h : p.trade x d = .error e) :
    p.quote x d = .error e ∨
      (∃ y, p.quote x d = .ok y) ∧ e = creditTooLarge d (p.reserveIn d + x) := by
  rcases bind_eq_error_iff.1 h with hquote | ⟨y, hquote, hreserves⟩
  · exact .inl hquote
  refine .inr ⟨⟨y, hquote⟩, ?_⟩
  obtain ⟨n, rfl, -, -, rfl⟩ := quote_eq_ok_iff.1 hquote
  have hdebit := p.output_le_reserveOut d n
  have hA := p.reserveA_le
  have hB := p.reserveB_le
  cases d with
  | aToB =>
    simp only [reserveOut, reserveIn, Direction.flip] at hdebit
    rcases withReserves_eq_error (by omega) (by omega) hreserves with ⟨-, rfl⟩ | ⟨hlarge, -⟩
    · rfl
    · omega
  | bToA =>
    simp only [reserveOut, reserveIn, Direction.flip] at hdebit
    rcases withReserves_eq_error (by omega) (by omega) hreserves with ⟨hlarge, -⟩ | ⟨-, rfl⟩
    · omega
    · rfl

/-- What two trades answer that are the same but for which asset is which: pools with their assets
exchanged, the same rejection, or that of the reserve that takes up what goes in. -/
inductive Mirrors : Except Rejection Pool → Except Rejection Pool → Prop
  | pools {q r : Pool} (h : q.reversed = .ok r) : Mirrors (.ok q) (.ok r)
  | rejected (e : Rejection) : Mirrors (.error e) (.error e)
  | tooLarge (d : Direction) (credited : Int) :
    Mirrors (.error (creditTooLarge d credited)) (.error (creditTooLarge d.flip credited))

theorem trade_mirrored_of_ok (h : p.granularity = 1) {x : Int} {d : Direction}
    (ht : p.trade x d = .ok q) : p.mirrored.trade x d.flip = .ok q.mirrored := by
  obtain ⟨y, hy, hin, hout, hterms⟩ := trade_eq_ok_iff.1 ht
  refine trade_eq_ok_iff.2 ⟨y, ?_, ?_, ?_, terms_mirrored hterms⟩
  · rw [quote_mirrored h, Direction.flip_flip, hy]
  · rw [reserveIn_mirrored, reserveIn_mirrored, Direction.flip_flip, hin]
  · rw [reserveOut_mirrored, reserveOut_mirrored, Direction.flip_flip, hout]

theorem exists_trade_mirrored_error (h : p.granularity = 1) {x : Int} {d : Direction}
    {e : Rejection} (ht : p.trade x d = .error e) :
    ∃ e', p.mirrored.trade x d.flip = .error e' := by
  cases ht' : p.mirrored.trade x d.flip with
  | error e' => exact ⟨e', rfl⟩
  | ok r =>
    -- exchanged back, the opposite trade would be the one that was rejected
    have hback := trade_mirrored_of_ok (granularity_mirrored h) ht'
    rw [mirrored_mirrored, Direction.flip_flip, ht] at hback
    cases hback

/-- **A trade and the opposite one in the exchanged pool succeed together**, and lead to pools that are
exchanged again. -/
theorem trade_mirrored (h : p.granularity = 1) (x : Int) (d : Direction) :
    Mirrors (p.trade x d) (p.mirrored.trade x d.flip) := by
  have hquotes : p.mirrored.quote x d.flip = p.quote x d := by
    rw [quote_mirrored h, Direction.flip_flip]
  cases ht : p.trade x d with
  | ok q =>
    obtain ⟨_, _, _, _, hterms⟩ := trade_eq_ok_iff.1 ht
    rw [trade_mirrored_of_ok h ht]
    exact .pools (reversed_eq_ok_iff.2 ⟨(granularity_eq_of_terms_eq hterms).trans h, rfl⟩)
  | error e =>
    obtain ⟨e', ht'⟩ := exists_trade_mirrored_error h ht
    rcases trade_eq_error ht with hquote | ⟨⟨y, hquote⟩, rfl⟩
    · rw [trade_eq_error_of_quote (hquotes.trans hquote)]
      exact .rejected e
    · rcases trade_eq_error ht' with hnone | ⟨-, rfl⟩
      · rw [hquotes, hquote] at hnone
        cases hnone
      · rw [ht', reserveIn_mirrored, Direction.flip_flip]
        exact .tooLarge d _

/-! ## Runs -/

/-- A trade as a step of a run, answered by the pool that it leads to. -/
def tradeStep (p : Pool) (t : Int × Direction) : Except Rejection (Pool × Pool) :=
  (p.trade t.1 t.2).map fun q => (q, q)

theorem settleStep_tradeStep (p : Pool) (t : Int × Direction) :
    settleStep tradeStep p t = (p.trade t.1 t.2, p.run [t]) := by
  unfold settleStep tradeStep
  cases h : p.trade t.1 t.2 with
  | ok q => rw [run_of_ok h]; rfl
  | error e => rw [run_of_error h]; rfl

/-- The trades of a run, answered one by one, lead to the pool that the run reaches. -/
theorem runSteps_tradeStep (p : Pool) (ts : List (Int × Direction)) :
    (runSteps tradeStep p ts).2 = p.run ts := by
  induction ts generalizing p with
  | nil => rfl
  | cons t ts ih =>
    simp only [runSteps, settleStep_tradeStep, ih]
    exact (run_append p [t] ts).symm

/-- The trade of the same size in the opposite direction. -/
def turned (t : Int × Direction) : Int × Direction := (t.1, t.2.flip)

theorem run_singleton_mirrored (h : p.granularity = 1) (t : Int × Direction) :
    p.mirrored.run [turned t] = (p.run [t]).mirrored := by
  cases ht : p.trade t.1 t.2 with
  | ok q => rw [run_of_ok ht, turned, run_of_ok (trade_mirrored_of_ok h ht)]
  | error e =>
    obtain ⟨e', ht'⟩ := exists_trade_mirrored_error h ht
    rw [run_of_error ht, turned, run_of_error ht']

/-- **A run and the opposite one in the exchanged pool succeed and fail trade by trade**, and reach pools
that are exchanged. -/
theorem runSteps_mirrored (h : p.granularity = 1) (ts : List (Int × Direction)) :
    p.mirrored.run (ts.map turned) = (p.run ts).mirrored ∧
      List.Forall₂ Mirrors (runSteps tradeStep p ts).1
        (runSteps tradeStep p.mirrored (ts.map turned)).1 := by
  induction ts generalizing p with
  | nil => exact ⟨rfl, .nil⟩
  | cons t ts ih =>
    have hkept : (p.run [t]).granularity = 1 :=
      (granularity_eq_of_terms_eq (p.run_keeps [t]).terms_eq).trans h
    have hstep := run_singleton_mirrored h t
    obtain ⟨hrun, hanswers⟩ := ih hkept
    constructor
    · calc p.mirrored.run ((t :: ts).map turned)
          = (p.mirrored.run [turned t]).run (ts.map turned) := run_append _ [turned t] _
        _ = ((p.run [t]).run ts).mirrored := by rw [hstep, hrun]
        _ = (p.run (t :: ts)).mirrored := by rw [← run_append, List.singleton_append]
    · simp only [List.map_cons, runSteps, settleStep_tradeStep, hstep]
      exact .cons (trade_mirrored h t.1 t.2) hanswers

/-- **The two directions of a pool without steps mirror each other.**  Its assets can be exchanged, and
exchanged back.  The exchanged pool quotes every size as the pool does in the opposite direction, with the
same asset coming out or the same rejection.  Every run of trades, turned around, reaches the exchanged
pool of the one that the run reaches, and fails at the same trades. -/
theorem directions_mirror (h : p.granularity = 1) :
    ∃ q, p.reversed = .ok q ∧ q.reversed = .ok p ∧
      (∀ (x : Int) (d : Direction),
        q.quote x d = p.quote x d.flip ∧ q.denomOut d = p.denomOut d.flip) ∧
      ∀ ts : List (Int × Direction),
        (p.run ts).reversed = .ok (q.run (ts.map turned)) ∧
        List.Forall₂ Mirrors (runSteps tradeStep p ts).1
          (runSteps tradeStep q (ts.map turned)).1 := by
  have hreversed : p.reversed = .ok p.mirrored := reversed_eq_ok_iff.2 ⟨h, rfl⟩
  refine ⟨p.mirrored, hreversed, reversed_reversed hreversed, fun x d => ?_, fun ts => ?_⟩
  · exact ⟨quote_mirrored h x d, denomOut_mirrored p d⟩
  · obtain ⟨hrun, hanswers⟩ := runSteps_mirrored h ts
    have hkept := granularity_eq_of_terms_eq (p.run_keeps ts).terms_eq
    exact ⟨reversed_eq_ok_iff.2 ⟨hkept.trans h, hrun⟩, hanswers⟩

/-- The sample pool without steps. -/
def steplessSample : Pool := { sample with granularity := 1, granularity_pos := Nat.one_pos }

/-- A run that buys, asks for what cannot be traded, and sells back. -/
theorem sample_mirrored :
    let p := steplessSample
    let trades : List (Int × Direction) := [(1000, .aToB), (-1, .bToA), (1993, .bToA)]
    p.granularity = 1 ∧ p.quote 1000 .aToB = .ok 1993 ∧
    ∃ q, p.reversed = .ok q ∧ (q.reserveA, q.reserveB) = (2000000, 1000000) ∧ q.reversed = .ok p ∧
      q.quote 1000 .bToA = .ok 1993 ∧ q.quote (-1) .aToB = p.quote (-1) .bToA ∧
      (p.run trades).reversed = .ok (q.run (trades.map turned)) ∧
      (runSteps tradeStep q (trades.map turned)).1.map Except.isOk = [true, false, true] := by
  intro p trades
  have hone : p.granularity = 1 := rfl
  have hbought : p.quote 1000 .aToB = .ok 1993 := by decide +kernel
  obtain ⟨q, hq, hback, hquotes, hruns⟩ := directions_mirror hone
  obtain ⟨-, rfl⟩ := reversed_eq_ok_iff.1 hq
  refine ⟨hone, hbought, _, hq, by decide, hback, ?_, (hquotes (-1) .aToB).1, (hruns trades).1, ?_⟩
  · rw [(hquotes 1000 .bToA).1]
    exact hbought
  · decide +kernel

end CrossVenue.Pool
