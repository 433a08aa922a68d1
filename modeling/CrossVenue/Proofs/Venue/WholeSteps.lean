import CrossVenue.Proofs.Pool.Scaled
import CrossVenue.Proofs.Venue.Orientation
import Mathlib.Algebra.BigOperators.Ring.List
import Mathlib.Data.Int.ModEq

/-!
# Whole steps of asset B

The plane that holds asset B counts it in steps of the granularity.  A pool gives whole steps only, but it
credits all that is paid in, and rounds nothing of it.  So what a run of trades leaves beyond whole steps
is what was paid in beyond them.

* `trade_reserveB_modEq`, `tradeAll_reserveB_modEq` : a trade, and a run, change the reserve by what is
  paid in of asset B, up to whole steps;
* `granularity_dvd_of_accounts` : a pool that is quoted from accounts holds whole steps;
* `whole_steps_kept` : a run keeps whole steps exactly if whole steps were paid in.
-/

set_option autoImplicit false

namespace CrossVenue.Pool

variable {p q : Pool}

/-- What a trade pays in of asset B. -/
def paidB : Int × Direction → Int
  | (_, .aToB) => 0
  | (x, .bToA) => x

/-- **A trade changes the reserve by what is paid in**, up to whole steps: what is given is whole. -/
theorem trade_reserveB_modEq {t : Int × Direction} (h : p.trade t.1 t.2 = .ok q) :
    (q.reserveB : Int) ≡ p.reserveB + paidB t [ZMOD p.granularity] := by
  obtain ⟨x, d⟩ := t
  obtain ⟨y, hy, hin, hout, -⟩ := trade_eq_ok_iff.1 h
  cases d with
  | aToB =>
    have hdvd : (p.granularity : Int) ∣ y := Int.natCast_dvd_natCast.2 (granularity_dvd_quote hy)
    have hgiven : (q.reserveB : Int) = p.reserveB - y := hout
    rw [hgiven, paidB, Int.add_zero]
    exact Int.modEq_iff_dvd.2 (by simpa using hdvd)
  | bToA =>
    have hcredited : (q.reserveB : Int) = p.reserveB + x := hin
    rw [hcredited, paidB]

/-- **So does a run**, by all that is paid in. -/
theorem tradeAll_reserveB_modEq {ts : List (Int × Direction)} (h : p.tradeAll ts = .ok q) :
    q.granularity = p.granularity ∧
      (q.reserveB : Int) ≡ p.reserveB + (ts.map paidB).sum [ZMOD p.granularity] := by
  induction ts generalizing p with
  | nil =>
    cases h
    exact ⟨rfl, by simp⟩
  | cons t ts ih =>
    simp only [tradeAll, List.foldlM_cons, bind_eq_ok_iff] at h
    obtain ⟨p₁, hp₁, hrest⟩ := h
    obtain ⟨_, _, _, _, hterms⟩ := trade_eq_ok_iff.1 hp₁
    have hg := granularity_eq_of_terms_eq hterms
    obtain ⟨hgq, hrun⟩ := ih hrest
    rw [hg] at hgq hrun
    refine ⟨hgq, ?_⟩
    calc (q.reserveB : Int)
        ≡ p₁.reserveB + (ts.map paidB).sum [ZMOD p.granularity] := hrun
      _ ≡ p.reserveB + paidB t + (ts.map paidB).sum [ZMOD p.granularity] :=
        (trade_reserveB_modEq hp₁).add_right _
      _ = p.reserveB + ((t :: ts).map paidB).sum := by
        rw [List.map_cons, List.sum_cons, Int.add_assoc]

/-- **A pool that is quoted from accounts holds whole steps.** -/
theorem granularity_dvd_of_accounts {r : Registry} {vault0 vault1 state : Bytes}
    (h : Raydium.poolOfAccounts r vault0 vault1 state = .ok p) : p.granularity ∣ p.reserveB := by
  obtain ⟨a, b, -, hsides⟩ := Raydium.poolOfAccounts_eq_ok_iff.1 h
  have hholds : ∃ a b : Json × Int, p.Holds a b := by
    split at hsides
    · exact ⟨_, _, Raydium.holds_of_sides (Raydium.parsePool_eq_ok_iff.1 hsides).1⟩
    · exact ⟨_, _, Raydium.holds_of_sides (Raydium.parsePool_eq_ok_iff.1 hsides).1⟩
  obtain ⟨a, b, hholds⟩ := hholds
  exact Int.natCast_dvd_natCast.1 ⟨b.2, hholds.reserveB_eq.trans (Int.mul_comm _ _)⟩

/-- What is paid in is whole if every trade pays in whole steps. -/
theorem dvd_sum_paidB {g : Int} {ts : List (Int × Direction)}
    (h : ∀ x, (x, Direction.bToA) ∈ ts → g ∣ x) : g ∣ (ts.map paidB).sum := by
  refine List.dvd_sum fun n hn => ?_
  obtain ⟨⟨x, d⟩, ht, rfl⟩ := List.mem_map.1 hn
  cases d with
  | aToB => exact Int.dvd_zero g
  | bToA => exact h x ht

/-- **A run of trades keeps asset B in whole steps exactly if whole steps were paid in.**  Pools that are
quoted from accounts hold whole steps; trades that pay in asset A may have any sizes, and trades that pay
in asset B keep the steps whole when their sizes are whole. -/
theorem whole_steps_kept :
    (∀ (r : Registry) (vault0 vault1 state : Bytes) (p : Pool),
      Raydium.poolOfAccounts r vault0 vault1 state = .ok p → p.granularity ∣ p.reserveB) ∧
    ∀ (p q : Pool) (ts : List (Int × Direction)),
      p.granularity ∣ p.reserveB → p.tradeAll ts = .ok q →
      q.granularity = p.granularity ∧
      (q.granularity ∣ q.reserveB ↔ (p.granularity : Int) ∣ (ts.map paidB).sum) ∧
      ((∀ x, (x, Direction.bToA) ∈ ts → (p.granularity : Int) ∣ x) →
        q.granularity ∣ q.reserveB) := by
  refine ⟨fun r vault0 vault1 state p h => granularity_dvd_of_accounts h, fun p q ts hp hrun => ?_⟩
  obtain ⟨hg, hmod⟩ := tradeAll_reserveB_modEq hrun
  have hp' : (p.granularity : Int) ∣ p.reserveB := Int.natCast_dvd_natCast.2 hp
  have hiff : q.granularity ∣ q.reserveB ↔ (p.granularity : Int) ∣ (ts.map paidB).sum := by
    rw [hg, ← Int.natCast_dvd_natCast, hmod.dvd_iff]
    exact Int.dvd_add_right hp'
  exact ⟨hg, hiff, fun h => hiff.2 (dvd_sum_paidB h)⟩

/-- A pool of ether holds whole billions, and a run in tens keeps tens. -/
theorem ether_and_sample_keep_steps :
    let ts : List (Int × Direction) := [(333, .aToB), (40, .bToA), (7, .aToB)]
    (∃ p, Raydium.poolOfAccounts .builtin (vaultOf etherMint 3) (vaultOf tetherMint 1000)
      feelessState = .ok p ∧ p.granularity = 1000000000 ∧ p.granularity ∣ p.reserveB) ∧
    sample.granularity ∣ sample.reserveB ∧
    ∃ q, sample.tradeAll ts = .ok q ∧ q.granularity = 10 ∧
      (q.granularity ∣ q.reserveB ↔ (10 : Int) ∣ (ts.map paidB).sum) ∧ q.granularity ∣ q.reserveB := by
  intro ts
  have hsides : Raydium.poolOfSides .builtin ⟨tetherMint, 1000⟩ ⟨etherMint, 3⟩ = .ok _ := rfl
  have hpool := Raydium.etherPool_quoted.2 hsides
  have hs : sample.granularity ∣ sample.reserveB := by decide
  have hok : (sample.tradeAll ts).map (fun _ => ()) = .ok () := by decide +kernel
  obtain ⟨q, hq, -⟩ := map_eq_ok_iff.1 hok
  obtain ⟨hg, hiff, hkept⟩ := whole_steps_kept.2 sample q ts hs hq
  have hpaid : ∀ t ∈ ts, t.2 = .bToA → (10 : Int) ∣ t.1 := by decide
  exact ⟨⟨_, hpool, rfl, whole_steps_kept.1 _ _ _ _ _ hpool⟩, hs, q, hq, hg, hiff,
    hkept fun x hx => hpaid _ hx rfl⟩

/-- **Asset B that is paid in beyond whole steps is credited**: of a pool in tens that is paid 1995, five
do not make up a step. -/
theorem broken_step_credited :
    ¬ ∀ (p q : Pool) (ts : List (Int × Direction)),
      p.granularity ∣ p.reserveB → p.tradeAll ts = .ok q → q.granularity ∣ q.reserveB := by
  intro h
  have hs : sample.granularity ∣ sample.reserveB := by decide
  have hrun : (sample.tradeAll [(1995, .bToA)]).map (fun q => q.reserveB % q.granularity) = .ok 5 := by
    decide +kernel
  obtain ⟨q, hq, hrest⟩ := map_eq_ok_iff.1 hrun
  have hdvd := Nat.mod_eq_zero_of_dvd (h sample q _ hs hq)
  omega

end CrossVenue.Pool
