import CrossVenue.Proofs.Arbitrage.Plan
import Mathlib.Algebra.Order.Field.Basic
import Mathlib.Algebra.Order.Field.Rat
import Mathlib.Data.Nat.Sqrt
import Mathlib.Order.Interval.Set.Defs
import Mathlib.Tactic.FieldSimp

/-!
# The best size without fees

Without fees and roundings the gain of a round trip is a rational function of its size.  It rises until the
price that the round trip reaches on the source meets the one on the target, and falls from there on.  The
closed form for that size rounds two roots, their product less the cross product, and a quotient.  All of
it rounds down, so the closed form stays on the side where the gain rises, and by how much it falls short
is bounded by the roots.

* `roundTrip_gain_le` : what a round trip gains is no more than that;
* `feeFreeProfit_sub` : the difference of two gains, from which their order is read off;
* `feeFreeProfit_monotoneOn` : the gain rises as long as the size is within reach;
* `maxProfitPoint_undershoots` : the closed form is within reach, and nearly as far as it goes.
-/

set_option autoImplicit false

namespace CrossVenue

section Gain

variable {K : Type*} [Field K]

/-- What a pool without a fee gives, before anything is rounded. -/
def exactOutput (reserveIn reserveOut x : K) : K := reserveOut * x / (reserveIn + x)

/-- What a round trip gains without fees and roundings. -/
def feeFreeProfit (a1 b1 a2 b2 x : K) : K := exactOutput b2 a2 (exactOutput a1 b1 x) - x

variable [LinearOrder K] [IsStrictOrderedRing K] {a1 b1 a2 b2 : K}

theorem feeFreeProfit_eq (ha1 : 0 < a1) (hb1 : 0 < b1) (hb2 : 0 < b2) {x : K} (hx : 0 ≤ x) :
    feeFreeProfit a1 b1 a2 b2 x = a2 * b1 * x / (a1 * b2 + (b1 + b2) * x) - x := by
  have hin : 0 < a1 + x := by positivity
  have hout : 0 ≤ b1 * x / (a1 + x) := by positivity
  have hback : b2 + b1 * x / (a1 + x) ≠ 0 := (add_pos_of_pos_of_nonneg hb2 hout).ne'
  have hreach : a1 * b2 + (b1 + b2) * x ≠ 0 := by positivity
  unfold feeFreeProfit exactOutput
  field_simp
  ring

theorem exactOutput_mono (ha : 0 < a1) (hb : 0 ≤ b1) {x y : K} (hx : 0 ≤ x) (hxy : x ≤ y) :
    exactOutput a1 b1 x ≤ exactOutput a1 b1 y := by
  have hy : 0 ≤ y := hx.trans hxy
  unfold exactOutput
  rw [div_le_div_iff₀ (by positivity) (by positivity)]
  calc b1 * x * (a1 + y) = a1 * b1 * x + b1 * x * y := by ring
    _ ≤ a1 * b1 * y + b1 * x * y := by gcongr
    _ = b1 * y * (a1 + x) := by ring

theorem output_le_exactOutput (p : Pool) {d : Direction} (hin : 0 < p.reserveIn d) (x : Nat) :
    (p.output d x : K) ≤ exactOutput (p.reserveIn d : K) (p.reserveOut d) x := by
  have hpos : (0 : K) < p.reserveIn d := by exact_mod_cast hin
  rw [exactOutput, le_div_iff₀ (by positivity)]
  exact_mod_cast p.output_mul_le d x

/-- **No round trip gains more than it would without fees and roundings.** -/
theorem roundTrip_gain_le {source target : Pool} (hs : 0 < source.reserveA) (ht : 0 < target.reserveB)
    {x : Int} {first second : Nat} (h : roundTrip source target x = .ok (first, second)) :
    (second - x : K) ≤
      feeFreeProfit (source.reserveA : K) source.reserveB target.reserveA target.reserveB x := by
  obtain ⟨hfirst, hsecond⟩ := roundTrip_eq_ok_iff.1 h
  obtain ⟨n, rfl, -, -, rfl⟩ := Pool.quote_eq_ok_iff.1 hfirst
  obtain ⟨m, hm, -, -, rfl⟩ := Pool.quote_eq_ok_iff.1 hsecond
  obtain rfl : source.output .aToB n = m := by exact_mod_cast hm
  have ht' : (0 : K) < target.reserveB := by exact_mod_cast ht
  rw [Int.cast_natCast]
  refine sub_le_sub_right ?_ _
  calc (target.output .bToA (source.output .aToB n) : K)
      ≤ exactOutput (target.reserveB : K) target.reserveA (source.output .aToB n) :=
        output_le_exactOutput target (d := .bToA) ht _
    _ ≤ exactOutput (target.reserveB : K) target.reserveA
          (exactOutput (source.reserveA : K) source.reserveB n) :=
        exactOutput_mono ht' (Nat.cast_nonneg _) (Nat.cast_nonneg _)
          (output_le_exactOutput source (d := .aToB) hs n)

/-- The gains at two sizes differ by what lies between them, times by how much the geometric mean of what
both reach falls short of where prices meet. -/
theorem feeFreeProfit_sub (ha1 : 0 < a1) (hb1 : 0 < b1) (hb2 : 0 < b2) {x y : K} (hx : 0 ≤ x)
    (hy : 0 ≤ y) :
    feeFreeProfit a1 b1 a2 b2 y - feeFreeProfit a1 b1 a2 b2 x =
      (y - x) * (a1 * b1 * a2 * b2 /
        ((a1 * b2 + (b1 + b2) * x) * (a1 * b2 + (b1 + b2) * y)) - 1) := by
  have hreach : ∀ t : K, 0 ≤ t → a1 * b2 + (b1 + b2) * t ≠ 0 := by
    intro t ht
    positivity
  have hrx := hreach x hx
  have hry := hreach y hy
  rw [feeFreeProfit_eq ha1 hb1 hb2 hx, feeFreeProfit_eq ha1 hb1 hb2 hy]
  field_simp
  ring

/-- **The gain rises as long as the size is within reach.** -/
theorem feeFreeProfit_monotoneOn (ha1 : 0 < a1) (hb1 : 0 < b1) (hb2 : 0 < b2) {m : K}
    (hm : (a1 * b2 + (b1 + b2) * m) ^ 2 ≤ a1 * b1 * a2 * b2) :
    MonotoneOn (feeFreeProfit a1 b1 a2 b2) (Set.Icc 0 m) := by
  rintro x ⟨hx, hxm⟩ y ⟨hy, hym⟩ hxy
  have hm0 : 0 ≤ m := hx.trans hxm
  have hrx : 0 < a1 * b2 + (b1 + b2) * x := by positivity
  have hry : 0 < a1 * b2 + (b1 + b2) * y := by positivity
  have hle : (a1 * b2 + (b1 + b2) * x) * (a1 * b2 + (b1 + b2) * y) ≤ a1 * b1 * a2 * b2 := by
    refine le_trans ?_ hm
    rw [sq]
    gcongr
  rw [← sub_nonneg, feeFreeProfit_sub ha1 hb1 hb2 hx hy]
  exact mul_nonneg (sub_nonneg.2 hxy) (sub_nonneg.2 ((one_le_div (mul_pos hrx hry)).2 hle))

end Gain

/-! ## The closed form -/

theorem root_eq_sqrt (n : Nat) : Number.root n = Nat.sqrt n := Nat.eq_sqrt.2 (Number.root_spec n)

theorem lt_succ_sqrt_mul_succ_sqrt_sq (m n : Nat) :
    m * n < ((Nat.sqrt m + 1) * (Nat.sqrt n + 1)) ^ 2 := by
  calc m * n < (Nat.sqrt m + 1) ^ 2 * (Nat.sqrt n + 1) ^ 2 :=
        Nat.mul_lt_mul'' (Nat.lt_succ_sqrt' m) (Nat.lt_succ_sqrt' n)
    _ = ((Nat.sqrt m + 1) * (Nat.sqrt n + 1)) ^ 2 := (mul_pow _ _ 2).symm

/-- A quotient without its fraction that is not negative is less than one short. -/
theorem lt_succ_tdiv_mul {n d : Int} (hd : 0 < d) (h : 0 ≤ n.tdiv d) : n < (n.tdiv d + 1) * d := by
  rcases lt_or_ge n 0 with hn | hn
  · exact hn.trans_le (Int.mul_nonneg (by omega) hd.le)
  · rw [Int.tdiv_eq_ediv_of_nonneg hn]
    exact Int.lt_ediv_add_one_mul_self n hd

/-- **The closed form never oversizes.** -/
theorem maxProfitPoint_sq_le {a1 b1 a2 b2 : Nat} {x : Int} (h : maxProfitPoint a1 b1 a2 b2 = .ok x)
    (hx : 0 < x) : ((a1 * b2 + (b1 + b2) * x) ^ 2 : Int) ≤ a1 * b1 * a2 * b2 := by
  have hreach := maxProfitPoint_reach h hx
  have hsq : ((Number.root (a1 * b1) * Number.root (a2 * b2) : Int)) ^ 2 ≤ a1 * b1 * (a2 * b2) := by
    exact_mod_cast root_mul_root_sq_le (a1 * b1) (a2 * b2)
  rw [mul_assoc (a1 * b1 : Int)]
  exact (pow_le_pow_left₀ (by positivity) hreach 2).trans hsq

/-- **Nor does it undersize by more than the roots.** -/
theorem lt_maxProfitPoint_sq {a1 b1 a2 b2 : Nat} {x : Int} (h : maxProfitPoint a1 b1 a2 b2 = .ok x)
    (hx : 0 ≤ x) :
    (a1 * b1 * a2 * b2 : Int) <
      ((x + 1) * (b1 + b2) + a1 * b2 + Nat.sqrt (a1 * b1) + Nat.sqrt (a2 * b2) + 1) ^ 2 := by
  obtain ⟨hz, -, -, -, hquotient⟩ := maxProfitPoint_eq_ok_iff.1 h
  rw [root_eq_sqrt, root_eq_sqrt] at hquotient
  have hroots := lt_succ_sqrt_mul_succ_sqrt_sq (a1 * b1) (a2 * b2)
  generalize Nat.sqrt (a1 * b1) = r1 at *
  generalize Nat.sqrt (a2 * b2) = r2 at *
  have hfloor : (r1 * r2 - a1 * b2 : Int) < (x + 1) * (b1 + b2) := by
    rw [hquotient] at hx ⊢
    exact lt_succ_tdiv_mul (by omega) hx
  have hreach : ((r1 + 1) * (r2 + 1) : Int) ≤ (x + 1) * (b1 + b2) + a1 * b2 + r1 + r2 + 1 := by
    linarith
  calc (a1 * b1 * a2 * b2 : Int) = a1 * b1 * (a2 * b2) := mul_assoc _ _ _
    _ < ((r1 + 1) * (r2 + 1)) ^ 2 := by exact_mod_cast hroots
    _ ≤ ((x + 1) * (b1 + b2) + a1 * b2 + r1 + r2 + 1) ^ 2 :=
      pow_le_pow_left₀ (by positivity) hreach 2

/-- **The closed form never oversizes, and undershoots by no more than the roots that it rounds.**  A
positive one is within reach, so the gain of a round trip without fees and roundings rises up to it; one
size more, and the roots more, would be out of reach. -/
theorem maxProfitPoint_undershoots (K : Type*) [Field K] [LinearOrder K] [IsStrictOrderedRing K]
    {a1 b1 a2 b2 : Nat} (ha1 : 0 < a1) (hb1 : 0 < b1) (hb2 : 0 < b2) {raw : Int}
    (h : maxProfitPoint a1 b1 a2 b2 = .ok raw) (hraw : 0 ≤ raw) :
    (0 < raw →
      ((a1 * b2 + (b1 + b2) * raw) ^ 2 : Int) ≤ a1 * b1 * a2 * b2 ∧
      (∀ x : K, 0 ≤ x → feeFreeProfit (a1 : K) b1 a2 b2 x =
        a2 * b1 * x / (a1 * b2 + (b1 + b2) * x) - x) ∧
      MonotoneOn (feeFreeProfit (a1 : K) b1 a2 b2) (Set.Icc 0 (raw : K))) ∧
    (a1 * b1 * a2 * b2 : Int) <
      ((raw + 1) * (b1 + b2) + a1 * b2 + Nat.sqrt (a1 * b1) + Nat.sqrt (a2 * b2) + 1) ^ 2 := by
  have ha1' : (0 : K) < a1 := by exact_mod_cast ha1
  have hb1' : (0 : K) < b1 := by exact_mod_cast hb1
  have hb2' : (0 : K) < b2 := by exact_mod_cast hb2
  refine ⟨fun hpos => ?_, lt_maxProfitPoint_sq h hraw⟩
  have hsq := maxProfitPoint_sq_le h hpos
  refine ⟨hsq, fun x hx => feeFreeProfit_eq ha1' hb1' hb2' hx,
    feeFreeProfit_monotoneOn ha1' hb1' hb2' ?_⟩
  exact_mod_cast (Int.cast_le (R := K)).2 hsq

/-- The best size between the pools of ether. -/
theorem ether_undershot :
    maxProfitPoint etherSeller.reserveA etherSeller.reserveB etherBuyer.reserveA etherBuyer.reserveB =
      .ok 49193338482 ∧
    MonotoneOn (feeFreeProfit (etherSeller.reserveA : ℚ) etherSeller.reserveB etherBuyer.reserveA
      etherBuyer.reserveB) (Set.Icc 0 (49193338482 : Int)) ∧
    (etherSeller.reserveA * etherSeller.reserveB * etherBuyer.reserveA * etherBuyer.reserveB : Int) <
      ((49193338482 + 1) * (etherSeller.reserveB + etherBuyer.reserveB) +
        etherSeller.reserveA * etherBuyer.reserveB + Nat.sqrt (etherSeller.reserveA *
          etherSeller.reserveB) + Nat.sqrt (etherBuyer.reserveA * etherBuyer.reserveB) + 1) ^ 2 := by
  have h : maxProfitPoint etherSeller.reserveA etherSeller.reserveB etherBuyer.reserveA
      etherBuyer.reserveB = .ok 49193338482 := by decide +kernel
  obtain ⟨hreach, hundershot⟩ :=
    maxProfitPoint_undershoots ℚ (by decide) (by decide) (by decide) h (by decide)
  exact ⟨h, (hreach (by decide)).2.2, hundershot⟩

end CrossVenue
