import CrossVenue.Proofs.Venue.Orientation
import CrossVenue.Proofs.Venue.Raydium
import Mathlib.Algebra.GroupWithZero.Basic
import Mathlib.Algebra.Ring.Int.Defs

/-!
# The units of quotes and of swaps

Vaults count an asset in the units of their plane, swaps are asked for in the units of the other planes,
and the factor of the mint stands between them.  Composing a swap divides by the factor of whatever asset
goes in.  Quoting multiplies by the factor of asset B alone, and takes asset A as its vault counts it: the
two agree about asset A only where it needs no factor.

* `poolOfSides_reserves` : which units the reserves of a quoted pool are in;
* `reserves_in_units_iff` : when quotes and swaps count an asset in the same units.
-/

set_option autoImplicit false

namespace CrossVenue.Raydium

variable {r : Registry} {pool : Pool} {a b : Side}

/-- **The units of a quoted pool**: asset B is scaled, asset A is not. -/
theorem poolOfSides_reserves (h : poolOfSides r a b = .ok pool) :
    pool.denomA = .str a.mint ∧ pool.denomB = .str b.mint ∧ (pool.reserveA : Int) = a.reserve ∧
      (pool.reserveB : Int) = b.reserve * r.decimalFactor b.mint ∧
      pool.granularity = r.decimalFactor b.mint := by
  unfold poolOfSides at h
  split at h
  · cases h
  · obtain ⟨-, -, hA, hB⟩ := toPool_names h
    obtain ⟨ha, hb, -, hg⟩ := toPool_reserves h
    exact ⟨hA, hB, ha, hb, Int.natCast_inj.1 hg⟩

/-- **Quotes count asset B in the units of swaps, and asset A exactly if it is worth no scaling.**  The
reserve of asset B is what its vault holds beyond accrued fees, times the factor of its mint.  That of
asset A is what its vault holds, as it stands, which is that multiple only of nothing or by a factor of
one.  A swap that puts in either of them is divided by the factor of its mint. -/
theorem reserves_in_units_iff {vault0 vault1 state : Bytes}
    (h : poolOfAccounts r vault0 vault1 state = .ok pool) :
    ∃ a b : Side, (ReadsAs vault0 vault1 state a b ∨ ReadsAs vault0 vault1 state b a) ∧
      pool.denomA = .str a.mint ∧ pool.denomB = .str b.mint ∧
      (pool.reserveB : Int) = b.reserve * r.decimalFactor b.mint ∧
      (pool.reserveA : Int) = a.reserve ∧
      ((pool.reserveA : Int) = a.reserve * r.decimalFactor a.mint ↔
        a.reserve = 0 ∨ r.decimalFactor a.mint = 1) ∧
      ∀ side ∈ [a, b], ∀ (budget : Json) (swap : Swap) (tx : Transaction),
        r.svmMint swap.denom = side.mint → swapTransaction r budget swap = .ok tx →
        ∃ n : Nat, (n : Int) = swap.amount ∧
          offerOf? tx = some ⟨some side.mint, n / r.decimalFactor side.mint⟩ := by
  obtain ⟨a, b, hreads, hquoted⟩ : ∃ a b : Side,
      (ReadsAs vault0 vault1 state a b ∨ ReadsAs vault0 vault1 state b a) ∧
        poolOfSides r a b = .ok pool := by
    obtain ⟨p, q, hreads, hsides⟩ := poolOfAccounts_eq_ok_iff.1 h
    split at hsides
    · exact ⟨p, q, .inl hreads, (parsePool_eq_ok_iff.1 hsides).1⟩
    · exact ⟨q, p, .inr hreads, (parsePool_eq_ok_iff.1 hsides).1⟩
  obtain ⟨hA, hB, ha, hb, -⟩ := poolOfSides_reserves hquoted
  refine ⟨a, b, hreads, hA, hB, hb, ha, ?_, ?_⟩
  · rw [ha]
    calc a.reserve = a.reserve * r.decimalFactor a.mint
        ↔ a.reserve * r.decimalFactor a.mint = a.reserve := eq_comm
      _ ↔ (r.decimalFactor a.mint : Int) = 1 ∨ a.reserve = 0 := mul_right_eq_self₀
      _ ↔ a.reserve = 0 ∨ r.decimalFactor a.mint = 1 := by rw [Nat.cast_eq_one, or_comm]
  · intro side _ budget swap tx hmint htx
    obtain ⟨ixs, units, n, hn, rfl, -, -, -, hoffer⟩ := swapTransaction_eq_ok htx
    exact ⟨n, hn, hmint ▸ hoffer [swap.sender]⟩

/-! ## A pool of ether -/

/-- Ether is scaled by a billion, in quotes and in swaps. -/
theorem etherPool_in_units :
    ∃ pool, poolOfAccounts .builtin (vaultOf etherMint 3) (vaultOf tetherMint 1000) feelessState =
        .ok pool ∧ pool.denomB = .str etherMint ∧ pool.reserveB = 3000000000 ∧
      ∃ (tx : Transaction) (n : Nat), swapTransaction .builtin (.int 1000) etherSale = .ok tx ∧
        (n : Int) = etherSale.amount ∧
        offerOf? tx = some ⟨some etherMint, n / 1000000000⟩ := by
  have hsides : poolOfSides .builtin ⟨tetherMint, 1000⟩ ⟨etherMint, 3⟩ = .ok _ := rfl
  have hpool := etherPool_quoted.2 hsides
  obtain ⟨a, b, -, -, hB, -, -, -, hoffers⟩ := reserves_in_units_iff hpool
  obtain ⟨tx, htx⟩ := etherSale_composed
  have hb : b.mint = etherMint := (Json.str.inj hB).symm
  have hmint : Registry.builtin.svmMint etherSale.denom = b.mint := by
    rw [hb]
    rfl
  obtain ⟨n, hn, hoffer⟩ := hoffers b (by simp) _ _ tx hmint htx
  rw [hb] at hoffer
  exact ⟨_, hpool, rfl, rfl, tx, n, htx, hn, hoffer⟩

/-- The built-in registry, settled in ether. -/
def etherSettled : Registry := { Registry.builtin with settlementDenom := "eth" }

/-- **A settlement asset that needs scaling is quoted without it**: three units of ether on the SVM plane
are three billion on the others, and are quoted as three. -/
theorem settlement_reserve_unscaled :
    ¬ ∀ (r : Registry) (vault0 vault1 state : Bytes) (pool : Pool),
      poolOfAccounts r vault0 vault1 state = .ok pool →
      ∃ a b : Side, (ReadsAs vault0 vault1 state a b ∨ ReadsAs vault0 vault1 state b a) ∧
        pool.denomA = .str a.mint ∧ pool.denomB = .str b.mint ∧
        (pool.reserveA : Int) = a.reserve * r.decimalFactor a.mint ∧
        (pool.reserveB : Int) = b.reserve * r.decimalFactor b.mint := by
  intro h
  obtain ⟨token0, token1, fees, h0, h1, hf, hs⟩ := readsAs_etherVaults
  have hsides : poolOfSides etherSettled ⟨etherMint, 3⟩ ⟨tetherMint, 1000⟩ = .ok _ := rfl
  have hquoted := parsePool_eq_ok_iff.2 ⟨hsides, by decide +kernel⟩
  have hpool := (poolOfAccounts_eq h0 h1 hf hs (r := etherSettled)).trans
    ((if_pos (by decide +kernel)).trans hquoted)
  obtain ⟨a, b, -, hA, -, hscaled, -⟩ := h _ _ _ _ _ hpool
  have ha : a.mint = etherMint := (Json.str.inj hA).symm
  have hfactor : etherSettled.decimalFactor etherMint = 1000000000 := rfl
  rw [ha, hfactor] at hscaled
  have hthree : (3 : Int) = a.reserve * 1000000000 := hscaled
  omega

end CrossVenue.Raydium
