import CrossVenue.Proofs.Arbitrage.Affordable

/-!
# Realistic reserves leave headroom

Every product that sizing and quoting compute is checked against a word, and for reserves of up to
`2 ^ 117` no check fails.  The bounds on what sizing computes are read off the reserves; those on what
quoting computes need a bound on the size, which is itself a quotient of a product of roots.

* `Sized.double_sq_le` : twice a size that is sized is at most the geometric mean of both reserves;
* `Pool.Realistic.quotable` : a realistic pool quotes every size that is no larger than a reserve;
* `solve_never_overflows` : the solver answers between realistic pools, unless the least profit is too
  long to be written.
-/

set_option autoImplicit false

namespace CrossVenue

/-- The greatest reserve that is realistic. -/
def realisticReserve : Nat := 2 ^ 117

/-- A pool that holds something of both assets, in realistic quantities, and deducts its fee in one of
the ways that there are. -/
structure Pool.Realistic (p : Pool) : Prop where
  reserveA_pos : 1 ≤ p.reserveA
  reserveA_le : p.reserveA ≤ realisticReserve
  reserveB_pos : 1 ≤ p.reserveB
  reserveB_le : p.reserveB ≤ realisticReserve
  convention : p.convention = .preFee ∨ p.convention = .postFee

/-- The words that are checked before a size is known. -/
structure SizingChecked (source target : Pool) : Prop where
  source_product : checkWord "a1*b1" (source.reserveA * source.reserveB) =
    .ok (source.reserveA * source.reserveB)
  target_product : checkWord "a2*b2" (target.reserveA * target.reserveB) =
    .ok (target.reserveA * target.reserveB)
  numerator : ∃ v, checkWord "optimal point numerator"
    ((Number.root (source.reserveA * source.reserveB) : Int) *
      Number.root (target.reserveA * target.reserveB) - source.reserveA * target.reserveB) = .ok v
  deviation : checkWord "deviation numerator" (source.reserveA * target.reserveB * feeScale) =
    .ok (source.reserveA * target.reserveB * feeScale)

/-! ## How large a size can be -/

/-- **Twice a size is at most the geometric mean of the reserves that it goes into and comes out of.**
The other two reserves cancel, for their sum is at least twice their geometric mean. -/
theorem Sized.double_sq_le {source target : Pool} {x : Nat} (h : Sized source target x) :
    (2 * x) ^ 2 ≤ source.reserveA * target.reserveA := by
  have hb : 0 < source.reserveB * target.reserveB := Nat.mul_pos h.sourceB_pos h.targetB_pos
  have hmean : 4 * (source.reserveB * target.reserveB) ≤
      (source.reserveB + target.reserveB) ^ 2 := by
    zify
    nlinarith [sq_nonneg ((source.reserveB : Int) - target.reserveB)]
  refine Nat.le_of_mul_le_mul_right ?_ hb
  calc (2 * x) ^ 2 * (source.reserveB * target.reserveB)
      = 4 * (source.reserveB * target.reserveB) * x ^ 2 := by ring
    _ ≤ (source.reserveB + target.reserveB) ^ 2 * x ^ 2 := Nat.mul_le_mul_right _ hmean
    _ = ((source.reserveB + target.reserveB) * x) ^ 2 := by ring
    _ ≤ (source.reserveA * target.reserveB + (source.reserveB + target.reserveB) * x) ^ 2 :=
        Nat.pow_le_pow_left (Nat.le_add_left _ _) 2
    _ ≤ source.reserveA * source.reserveB * (target.reserveA * target.reserveB) := h.square_le
    _ = source.reserveA * target.reserveA * (source.reserveB * target.reserveB) := by ring

theorem Sized.double_le {source target : Pool} {x : Nat} (h : Sized source target x)
    (hs : source.reserveA ≤ realisticReserve) (ht : target.reserveA ≤ realisticReserve) :
    2 * x ≤ realisticReserve := by
  refine (Nat.pow_le_pow_iff_left (show (2 : Nat) ≠ 0 by decide)).1 ?_
  calc (2 * x) ^ 2 ≤ source.reserveA * target.reserveA := h.double_sq_le
    _ ≤ realisticReserve * realisticReserve := Nat.mul_le_mul hs ht
    _ = realisticReserve ^ 2 := (sq realisticReserve).symm

/-! ## Sizing -/

theorem checkWord_natCast {n : Nat} (label : Text) (h : n ≤ maxWord) :
    checkWord label n = .ok (n : Int) := by
  have hm : minWord ≤ 0 := by decide
  exact checkWord_eq_ok_iff.2 ⟨rfl, by omega, by omega⟩

/-- Two realistic reserves leave room for a factor that is as large as the fee scale. -/
theorem realistic_product_le {a b : Nat} (ha : a ≤ realisticReserve) (hb : b ≤ realisticReserve) :
    a * b * feeScale ≤ maxWord :=
  (Nat.mul_le_mul_right _ (Nat.mul_le_mul ha hb)).trans (by decide)

theorem realistic_product_le_word {a b : Nat} (ha : a ≤ realisticReserve)
    (hb : b ≤ realisticReserve) : a * b ≤ maxWord :=
  (Nat.le_mul_of_pos_right _ (by decide)).trans (realistic_product_le ha hb)

/-- The closed form's numerator is a difference of two words that are not negative. -/
theorem rootProduct_sub_isWord {m n c : Nat} (hm : m ≤ maxWord) (hn : n ≤ maxWord)
    (hc : c ≤ maxWord) :
    minWord ≤ (Number.root m : Int) * Number.root n - c ∧
      (Number.root m : Int) * Number.root n - c ≤ maxWord := by
  have hroots := root_mul_root_le hm hn
  have hw : minWord = -(maxWord : Int) - 1 := rfl
  rw [← Int.natCast_mul]
  omega

theorem Pool.Realistic.sizingChecked {source target : Pool} (hs : source.Realistic)
    (ht : target.Realistic) : SizingChecked source target := by
  have h1 := realistic_product_le_word hs.reserveA_le hs.reserveB_le
  have h2 := realistic_product_le_word ht.reserveA_le ht.reserveB_le
  have h3 := realistic_product_le_word hs.reserveA_le ht.reserveB_le
  exact
    { source_product := by exact_mod_cast checkWord_natCast _ h1
      target_product := by exact_mod_cast checkWord_natCast _ h2
      numerator := by
        refine ⟨_, checkWord_eq_ok_iff.2 ⟨rfl, ?_⟩⟩
        exact_mod_cast rootProduct_sub_isWord h1 h2 h3
      deviation := by
        exact_mod_cast checkWord_natCast _ (realistic_product_le hs.reserveA_le ht.reserveB_le) }

theorem Pool.Realistic.requireReserves {p : Pool} (hp : p.Realistic) :
    CrossVenue.requireReserves p = .ok () :=
  requireReserves_eq_ok_iff.2 ⟨hp.reserveA_pos, hp.reserveB_pos⟩

theorem Pool.Realistic.exists_deviationRatio {source target : Pool} (hs : source.Realistic)
    (ht : target.Realistic) : ∃ ratio, deviationRatio source target = .ok ratio := by
  have hB := hs.reserveB_pos
  have hA := ht.reserveA_pos
  have hden : source.reserveB * target.reserveA ≠ 0 := by positivity
  exact ⟨_, deviationRatio_eq_ok_iff.2
    ⟨hden, realistic_product_le hs.reserveA_le ht.reserveB_le, rfl⟩⟩

theorem Pool.Realistic.exists_maxProfitPoint {source target : Pool} (hs : source.Realistic)
    (ht : target.Realistic) :
    ∃ raw, maxProfitPoint source.reserveA source.reserveB target.reserveA target.reserveB =
      .ok raw := by
  have hB := hs.reserveB_pos
  have h1 := realistic_product_le_word hs.reserveA_le hs.reserveB_le
  have h2 := realistic_product_le_word ht.reserveA_le ht.reserveB_le
  have hnum := rootProduct_sub_isWord h1 h2 (realistic_product_le_word hs.reserveA_le ht.reserveB_le)
  rw [Int.natCast_mul] at hnum
  exact ⟨_, maxProfitPoint_eq_ok_iff.2 ⟨by omega, h1, h2, hnum, rfl⟩⟩

/-- Realistic pools are sized. -/
theorem Pool.Realistic.exists_optimalTradeSize {policy : Policy} (hp : policy.InRange)
    {source target : Pool} (hs : source.Realistic) (ht : target.Realistic) :
    ∃ optimal, optimalTradeSize policy source target = .ok optimal := by
  obtain ⟨raw, hraw⟩ := hs.exists_maxProfitPoint ht
  obtain ⟨ratio, hratio⟩ := hs.exists_deviationRatio ht
  have hwritten := isWritable_of_natAbs_le_word (natAbs_maxProfitPoint_le hraw)
  rw [optimalTradeSize, lift_bind_of_ok hs.requireReserves, lift_bind_of_ok ht.requireReserves,
    lift_bind_of_ok hraw, hp.apply_eq hratio, if_pos hwritten]
  exact ⟨_, rfl⟩

/-! ## Quoting -/

/-- **A realistic pool quotes every size that is no larger than a realistic reserve.** -/
theorem Pool.Realistic.quotable {p : Pool} (hp : p.Realistic) (d : Direction) {n : Nat}
    (hn : n ≤ realisticReserve) : p.Quotable d n := by
  have hin : 1 ≤ p.reserveIn d ∧ p.reserveIn d ≤ realisticReserve := by
    cases d with
    | aToB => exact ⟨hp.reserveA_pos, hp.reserveA_le⟩
    | bToA => exact ⟨hp.reserveB_pos, hp.reserveB_le⟩
  have hout : p.reserveOut d ≤ realisticReserve := by
    cases d with
    | aToB => exact hp.reserveB_le
    | bToA => exact hp.reserveA_le
  have htaken := (p.effectiveInput_le d n).trans hn
  have hkept := p.keptRate_le
  unfold Quotable
  rcases hp.convention with h | h <;> rw [h] <;> simp only
  · refine ⟨?_, realistic_product_le_word hout htaken, by omega⟩
    calc n * p.keptRate ≤ realisticReserve * feeScale := Nat.mul_le_mul hn hkept
      _ ≤ maxWord := by decide
  · refine ⟨?_, ?_, by omega⟩
    · calc p.reserveOut d * p.effectiveInput d n * p.keptRate
          ≤ p.reserveOut d * p.effectiveInput d n * feeScale := Nat.mul_le_mul_left _ hkept
        _ ≤ maxWord := realistic_product_le hout htaken
    · calc (p.reserveIn d + p.effectiveInput d n) * feeScale
          ≤ (realisticReserve + realisticReserve) * feeScale :=
            Nat.mul_le_mul_right _ (Nat.add_le_add hin.2 htaken)
        _ ≤ maxWord := by decide

theorem Pool.Realistic.quote {p : Pool} (hp : p.Realistic) (d : Direction) {n : Nat}
    (hn : n ≤ realisticReserve) : p.quote n d = .ok (p.output d n) :=
  Pool.quote_eq_ok_iff.2 ⟨n, rfl, hn.trans (by decide), hp.quotable d hn, rfl⟩

/-- What a realistic pool gives is no larger than a realistic reserve, so that it can be traded on. -/
theorem Pool.Realistic.output_le {p : Pool} (hp : p.Realistic) (d : Direction) (n : Nat) :
    p.output d n ≤ realisticReserve := by
  refine (p.output_le_reserveOut d n).trans ?_
  cases d with
  | aToB => exact hp.reserveB_le
  | bToA => exact hp.reserveA_le

theorem Pool.Realistic.roundTrip {source target : Pool} (hs : source.Realistic)
    (ht : target.Realistic) {n : Nat} (hn : n ≤ realisticReserve) :
    CrossVenue.roundTrip source target n =
      .ok (source.output .aToB n, target.output .bToA (source.output .aToB n)) :=
  roundTrip_eq_ok_iff.2 ⟨hs.quote .aToB hn, ht.quote .bToA (hs.output_le .aToB n)⟩

/-! ## Solving -/

/-- Between realistic pools the solver fails only if the least profit is too long to be written, and
then only where it would have to say that it is not exceeded. -/
theorem solve_eq_error_iff_of_realistic {policy : Policy} (hp : policy.InRange)
    {source target : Pool} (hs : source.Realistic) (ht : target.Realistic) {optimal : Int}
    (hopt : optimalTradeSize policy source target = .ok optimal)
    (hle : 0 < optimal → optimal ≤ realisticReserve) {balance minProfit : Int} {failure : Failure} :
    solve policy source target balance minProfit = .error failure ↔
      0 < optimal ∧ (Number.tooLong : Int) ≤ minProfit ∧ failure = .broken .badText := by
  have hwritten := isWritable_of_natAbs_le_word (hp.natAbs_size_le hopt)
  have hquoted : 0 < optimal → ∃ outputs, roundTrip source target optimal = .ok outputs := by
    intro hpos
    obtain ⟨n, rfl⟩ : ∃ n : Nat, optimal = n := ⟨optimal.toNat, by omega⟩
    exact ⟨_, hs.roundTrip ht (by exact_mod_cast hle hpos)⟩
  rw [solve_eq_error_iff]
  constructor
  · rintro (hsizing | ⟨optimal', hopt', ⟨hpos, r, hr, -⟩ | ⟨⟨-, hlong⟩, hfailure⟩⟩)
    · rw [hopt] at hsizing
      cases hsizing
    · cases hopt.symm.trans hopt'
      obtain ⟨outputs, hok⟩ := hquoted hpos
      rw [hok] at hr
      cases hr
    · cases hopt.symm.trans hopt'
      rcases hlong with hlong | ⟨hpos, hleast⟩
      · rw [hwritten] at hlong
        cases hlong
      · exact ⟨hpos, hleast, hfailure⟩
  · rintro ⟨hpos, hleast, hfailure⟩
    exact .inr ⟨optimal, hopt, .inr ⟨⟨hquoted, .inr ⟨hpos, hleast⟩⟩, hfailure⟩⟩

/-- **Between realistic pools nothing overflows, and every request is answered whose least profit is not
too long.**  All words that are checked while a size is computed are in range; so are those of both
quotes, at every size up to the one that is best; and the solver answers with a plan or with a reason not
to trade, whatever the balance.  It breaks down where the reason would have to show a least profit that
is too long to be written, and only there. -/
theorem solve_never_overflows {policy : Policy} (hp : policy.InRange) {source target : Pool}
    (hs : source.Realistic) (ht : target.Realistic) :
    SizingChecked source target ∧
    ∃ optimal, optimalTradeSize policy source target = .ok optimal ∧
      (∀ n : Nat, 0 < n → n ≤ optimal →
        2 * n ≤ realisticReserve ∧ source.Quotable .aToB n ∧
          target.Quotable .bToA (source.output .aToB n) ∧
          roundTrip source target n =
            .ok (source.output .aToB n, target.output .bToA (source.output .aToB n))) ∧
      ∀ balance minProfit : Int,
        (minProfit < Number.tooLong →
          ∃ outcome, solve policy source target balance minProfit = .ok outcome) ∧
        ∀ failure, solve policy source target balance minProfit = .error failure ↔
          0 < optimal ∧ (Number.tooLong : Int) ≤ minProfit ∧ failure = .broken .badText := by
  obtain ⟨optimal, hopt⟩ := hs.exists_optimalTradeSize hp ht
  have hsize : ∀ n : Nat, 0 < n → n ≤ optimal → 2 * n ≤ realisticReserve := fun n hn hle =>
    have hsized := (optimalTradeSize_sized hp hopt (by omega)).mono hn (by omega)
    hsized.double_le hs.reserveA_le ht.reserveA_le
  have hbest : 0 < optimal → optimal ≤ realisticReserve := by
    intro hpos
    have hdouble := hsize optimal.toNat (by omega) (by omega)
    omega
  refine ⟨hs.sizingChecked ht, optimal, hopt, fun n hn hle => ?_, fun balance minProfit => ?_⟩
  · have hdouble := hsize n hn hle
    have hreserve : n ≤ realisticReserve := by omega
    exact ⟨hdouble, hs.quotable .aToB hreserve, ht.quotable .bToA (hs.output_le .aToB n),
      hs.roundTrip ht hreserve⟩
  · refine ⟨fun hleast => isOk_iff_forall_ne_error.2 fun failure hfails => ?_, fun failure =>
      solve_eq_error_iff_of_realistic hp hs ht hopt hbest⟩
    obtain ⟨-, hlong, -⟩ := (solve_eq_error_iff_of_realistic hp hs ht hopt hbest).1 hfails
    omega

theorem etherSeller_realistic : etherSeller.Realistic :=
  ⟨by decide, by decide, by decide, by decide, .inr rfl⟩

theorem etherBuyer_realistic : etherBuyer.Realistic :=
  ⟨by decide, by decide, by decide, by decide, .inl rfl⟩

/-- The reserves of the sellers and buyers of ether are realistic. -/
theorem ether_never_overflows :
    (Policy.default.InRange ∧ etherSeller.Realistic ∧ etherBuyer.Realistic) ∧
      SizingChecked etherSeller etherBuyer ∧
      ∀ balance minProfit : Int, minProfit < Number.tooLong → ∃ outcome,
        solve .default etherSeller etherBuyer balance minProfit = .ok outcome :=
  have h := solve_never_overflows default_inRange etherSeller_realistic etherBuyer_realistic
  ⟨⟨default_inRange, etherSeller_realistic, etherBuyer_realistic⟩, h.1, fun balance minProfit =>
    (h.2.choose_spec.2.2 balance minProfit).1⟩

/-- **A least profit that is too long breaks the solver down**: no gain exceeds it, and the reason not to
trade would have to show it. -/
theorem long_least_profit_breaks (balance : Int) :
    solve .default etherSeller etherBuyer balance Number.tooLong = .error (.broken .badText) := by
  have hopt : optimalTradeSize .default etherSeller etherBuyer = .ok 48701405097 := by decide +kernel
  exact (solve_eq_error_iff_of_realistic default_inRange etherSeller_realistic etherBuyer_realistic hopt
    (by decide)).2 ⟨by decide, le_rfl, rfl⟩

/-- **Not every request between realistic pools is answered.** -/
theorem long_least_profit_unanswered :
    ¬ ∀ (policy : Policy) (source target : Pool) (balance minProfit : Int), policy.InRange →
      source.Realistic → target.Realistic →
      ∃ outcome, solve policy source target balance minProfit = .ok outcome := by
  intro h
  obtain ⟨outcome, hok⟩ := h .default etherSeller etherBuyer 0 Number.tooLong default_inRange
    etherSeller_realistic etherBuyer_realistic
  rw [long_least_profit_breaks] at hok
  cases hok

end CrossVenue
