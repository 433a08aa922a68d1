import CrossVenue.Proofs.Computation
import CrossVenue.Proofs.Number.Short
import CrossVenue.Proofs.Registry.Factor
import CrossVenue.Venue.Astroport
import CrossVenue.Venue.Raydium
import CrossVenue.Venue.Uniswap

/-!
# Pools quoted from state

Every venue quotes its pools from state of its own form.  What the pool of two assets looks like follows
from the plane that holds them: how the plane names both assets, and in which steps the second one
moves.

* `Quoted` : a pool that a venue quotes from state about the settlement asset and another one;
* `Placed` : a pool of both assets on a plane;
* `placed_of_quoted` : every quoted pool is placed somewhere.
-/

set_option autoImplicit false

namespace CrossVenue

/-- A pool of the settlement asset and another one, held by a plane.  Pools of contracts hold assets of
the COSMOS plane. -/
structure Placed (r : Registry) (other : Text) (plane : Plane) (pool : Pool) : Prop where
  plane_ne : plane ≠ .wasm
  plane_eq : pool.plane = plane.name
  venue_eq : pool.venue = r.venueOn plane
  denomA_eq : pool.denomA = .str (r.nameOn r.settlementDenom plane)
  denomB_eq : pool.denomB = .str (r.nameOn other plane)
  granularity_eq : pool.granularity = plane.unit (r.decimalFactor (r.svmMint other))

/-- A pool that one of the venues quotes from state about the settlement asset and another one, which
may be listed in either order. -/
inductive Quoted (r : Registry) (other : Text) : Pool → Prop
  /-- Astroport answers a query with at least two assets. -/
  | astroport {room : Room} {pool : Pool} {response answer first second : Json} {more : List Json}
      {m n : Nat} :
    Astroport.readResponse room r response = .ok answer →
    answer.field? "assets" = some (.arr (first :: second :: more)) →
    (Astroport.parseAsset first = .ok (.str r.settlementDenom, m) ∧
        Astroport.parseAsset second = .ok (.str other, n) ∨
      Astroport.parseAsset first = .ok (.str other, m) ∧
        Astroport.parseAsset second = .ok (.str r.settlementDenom, n)) →
    Astroport.poolOfResponse room r response = .ok pool → Quoted r other pool
  /-- Raydium's vaults hold tokens of two mints. -/
  | raydium {pool : Pool} {vault0 vault1 state : Bytes} {token0 token1 : TokenAccount} :
    TokenAccount.ofBytes vault0 = .ok token0 → TokenAccount.ofBytes vault1 = .ok token1 →
    (token0.mint.toText = r.svmMint r.settlementDenom ∧ token1.mint.toText = r.svmMint other ∨
      token0.mint.toText = r.svmMint other ∧ token1.mint.toText = r.svmMint r.settlementDenom) →
    Raydium.poolOfAccounts r vault0 vault1 state = .ok pool → Quoted r other pool
  /-- Uniswap's reserves are those of a pair. -/
  | uniswap {pool : Pool} {router pair : Text} {a b : Int} :
    nonEmpty? r.uniswap.router = some router →
    r.pairOutputDenom r.settlementDenom pair = .ok other →
    Uniswap.poolOfReserves r pair a b = .ok pool → Quoted r other pool

variable {r : Registry} {other : Text}

/-- What a pool takes over from its listing. -/
theorem toPool_names {l : Listing} {p : Pool} (h : l.toPool = .ok p) :
    p.venue = l.venue ∧ p.plane = l.plane ∧ p.denomA = l.denomA ∧ p.denomB = l.denomB := by
  rw [← listing_of_toPool h]
  exact ⟨rfl, rfl, rfl, rfl⟩

/-! ## Each venue -/

theorem placed_of_pair {p q : Json × Nat} {pool : Pool}
    (hpq : p.1 = .str r.settlementDenom ∧ q.1 = .str other ∨
      p.1 = .str other ∧ q.1 = .str r.settlementDenom)
    (h : Astroport.poolOfPair r p q = .ok pool) : Placed r other .cosmos pool := by
  obtain ⟨a, b, ha, hb, h⟩ : ∃ a b : Json × Nat, a.1 = .str r.settlementDenom ∧ b.1 = .str other ∧
      Listing.toPool
        { venue := r.astroport.name
          plane := Plane.cosmos.name
          reserveA := a.2
          reserveB := b.2
          feeRate := r.astroport.feeRate.val
          convention := .postFee
          denomA := a.1
          denomB := b.1
          granularity := 1 } = .ok pool := by
    unfold Astroport.poolOfPair at h
    by_cases hp : p.1 = .str r.settlementDenom
    · rw [if_pos (Json.isText_iff.2 hp)] at h
      rcases hpq with ⟨-, hq⟩ | ⟨hp', hq⟩
      · exact ⟨p, q, hp, hq, h⟩
      · -- the other asset is the settlement asset too
        exact ⟨p, q, hp, by rw [hq, ← hp, hp'], h⟩
    · rw [if_neg (mt Json.isText_iff.1 hp)] at h
      rcases hpq with ⟨hp', -⟩ | ⟨hp', hq⟩
      · exact absurd hp' hp
      · exact ⟨q, p, hq, hp', h⟩
  obtain ⟨hv, hl, hA, hB⟩ := toPool_names h
  obtain ⟨-, -, -, hg⟩ := toPool_reserves h
  exact ⟨by decide, hl, hv, hA.trans ha, hB.trans hb, Int.natCast_inj.1 hg⟩

theorem placed_of_response {room : Room} {response answer first second : Json} {more : List Json}
    {m n : Nat} {pool : Pool} (hread : Astroport.readResponse room r response = .ok answer)
    (hassets : answer.field? "assets" = some (.arr (first :: second :: more)))
    (hd : Astroport.parseAsset first = .ok (.str r.settlementDenom, m) ∧
        Astroport.parseAsset second = .ok (.str other, n) ∨
      Astroport.parseAsset first = .ok (.str other, m) ∧
        Astroport.parseAsset second = .ok (.str r.settlementDenom, n))
    (h : Astroport.poolOfResponse room r response = .ok pool) : Placed r other .cosmos pool := by
  have hsize : ¬ (first :: second :: more).length < 2 := by simp
  obtain ⟨_, ha, h⟩ := bind_eq_ok_iff.1 h
  cases hread.symm.trans ha
  rw [hassets] at h
  simp only [Astroport.poolOfAssets, Astroport.size, bind_eq_ok_iff, Except.ok.injEq,
    exists_eq_left', if_neg hsize, Astroport.firstTwo, lift_eq_ok_iff] at h
  obtain ⟨p, hp, q, hq, h⟩ := h
  rcases hd with ⟨hp', hq'⟩ | ⟨hp', hq'⟩
  · cases hp'.symm.trans hp
    cases hq'.symm.trans hq
    exact placed_of_pair (.inl ⟨rfl, rfl⟩) h
  · cases hp'.symm.trans hp
    cases hq'.symm.trans hq
    exact placed_of_pair (.inr ⟨rfl, rfl⟩) h

/-- What the pool of two sides takes over from them. -/
theorem Raydium.names_of_sides {a b : Side} {pool : Pool} (h : poolOfSides r a b = .ok pool) :
    pool.venue = r.raydium.name ∧ pool.plane = Plane.svm.name ∧ pool.denomA = .str a.mint ∧
      pool.denomB = .str b.mint ∧ pool.granularity = r.decimalFactor b.mint := by
  unfold poolOfSides at h
  split at h
  · cases h
  · obtain ⟨hvenue, hplane, hA, hB⟩ := toPool_names h
    obtain ⟨-, -, -, hg⟩ := toPool_reserves h
    exact ⟨hvenue, hplane, hA, hB, Int.natCast_inj.1 hg⟩

/-- Only the steps of a pool can be too long for the log. -/
theorem Raydium.isWritable_parsedLine {a b : Side} {pool : Pool} (h : poolOfSides r a b = .ok pool) :
    (parsedLine pool).isWritable = Number.isWritable (r.decimalFactor b.mint) := by
  obtain ⟨-, -, hA, hB, hg⟩ := names_of_sides h
  have hreserveA := Number.isWritable_of_le_maxWord pool.reserveA_le
  have hreserveB := Number.isWritable_of_le_maxWord pool.reserveB_le
  have hrate := Number.isWritable_of_le_maxWord (pool.feeRate_le.trans (by decide))
  simp [parsedLine, hA, hB, hg, Json.shown, hreserveA, hreserveB, hrate]

/-- **The pool of two sides is quoted** unless its steps are too long for the log. -/
theorem Raydium.parsePool_eq_ok_iff {a b : Side} {pool : Pool} :
    parsePool r a b = .ok pool ↔
      poolOfSides r a b = .ok pool ∧ Number.isWritable (r.decimalFactor b.mint) = true := by
  simp only [parsePool, bind_eq_ok_iff, lift_eq_ok_iff, requireWritable_eq_ok_iff, Except.ok.injEq]
  constructor
  · rintro ⟨_, hpool, _, hwritten, rfl⟩
    exact ⟨hpool, (isWritable_parsedLine hpool).symm.trans hwritten⟩
  · rintro ⟨hpool, hwritten⟩
    exact ⟨pool, hpool, (), (isWritable_parsedLine hpool).trans hwritten, rfl⟩

theorem placed_of_sides {a b : Raydium.Side} {pool : Pool}
    (ha : a.mint = r.svmMint r.settlementDenom) (hb : b.mint = r.svmMint other)
    (h : Raydium.parsePool r a b = .ok pool) : Placed r other .svm pool := by
  obtain ⟨hv, hl, hA, hB, hg⟩ := Raydium.names_of_sides (Raydium.parsePool_eq_ok_iff.1 h).1
  rw [hb] at hg
  exact ⟨by decide, hl, hv, hA.trans (congrArg _ ha), hB.trans (congrArg _ hb), hg⟩

/-- The pool of accounts that are read, by the sides that they give. -/
theorem poolOfAccounts_eq {vault0 vault1 state : Bytes} {token0 token1 : TokenAccount}
    {fees : FeeCounters} {a b : Raydium.Side} (h0 : TokenAccount.ofBytes vault0 = .ok token0)
    (h1 : TokenAccount.ofBytes vault1 = .ok token1) (hf : FeeCounters.ofBytes state = .ok fees)
    (hs : Raydium.sides token0 token1 fees = (a, b)) :
    Raydium.poolOfAccounts r vault0 vault1 state =
      if a.mint = r.svmMint r.settlementDenom then Raydium.parsePool r a b
      else Raydium.parsePool r b a := by
  have hsides : Raydium.sidesOfAccounts vault0 vault1 state = .ok (a, b) := by
    simp only [Raydium.sidesOfAccounts, h0, h1, hf, hs, bind, Except.bind]
  rw [Raydium.poolOfAccounts, lift_bind_of_ok hsides]

theorem placed_of_accounts {vault0 vault1 state : Bytes} {token0 token1 : TokenAccount}
    {pool : Pool} (h0 : TokenAccount.ofBytes vault0 = .ok token0)
    (h1 : TokenAccount.ofBytes vault1 = .ok token1)
    (hm : token0.mint.toText = r.svmMint r.settlementDenom ∧ token1.mint.toText = r.svmMint other ∨
      token0.mint.toText = r.svmMint other ∧ token1.mint.toText = r.svmMint r.settlementDenom)
    (h : Raydium.poolOfAccounts r vault0 vault1 state = .ok pool) : Placed r other .svm pool := by
  obtain ⟨fees, hf⟩ : ∃ fees, FeeCounters.ofBytes state = .ok fees := by
    simp only [Raydium.poolOfAccounts, Raydium.sidesOfAccounts, h0, h1, bind_eq_ok_iff, lift_eq_ok_iff,
      Except.ok.injEq, exists_eq_left'] at h
    obtain ⟨_, ⟨fees, hf, -⟩, -⟩ := h
    exact ⟨fees, hf⟩
  obtain ⟨a, b, hs, ha, hb⟩ : ∃ a b, Raydium.sides token0 token1 fees = (a, b) ∧
      token0.mint.toText = a.mint ∧ token1.mint.toText = b.mint := ⟨_, _, rfl, rfl, rfl⟩
  rw [poolOfAccounts_eq h0 h1 hf hs] at h
  rw [ha, hb] at hm
  by_cases hsettled : a.mint = r.svmMint r.settlementDenom
  · rw [if_pos hsettled] at h
    rcases hm with ⟨-, ho⟩ | ⟨ho, ho'⟩
    · exact placed_of_sides hsettled ho h
    · -- the other token is of the settlement asset too
      exact placed_of_sides hsettled (by rw [← ho, hsettled, ← ho']) h
  · rw [if_neg hsettled] at h
    rcases hm with ⟨hsettled', -⟩ | ⟨ho, hs'⟩
    · exact absurd hsettled' hsettled
    · exact placed_of_sides hs' ho h

theorem placed_of_reserves {pair : Text} {a b : Int} {pool : Pool}
    (hp : r.pairOutputDenom r.settlementDenom pair = .ok other)
    (h : Uniswap.poolOfReserves r pair a b = .ok pool) : Placed r other .evm pool := by
  simp only [Uniswap.poolOfReserves, hp, bind_eq_ok_iff, Except.ok.injEq, exists_eq_left'] at h
  obtain ⟨hv, hl, hA, hB⟩ := toPool_names h
  obtain ⟨-, -, -, hg⟩ := toPool_reserves h
  exact ⟨by decide, hl, hv, hA, hB, Int.natCast_inj.1 hg⟩

/-- **Every quoted pool is held by the plane of its venue.** -/
theorem placed_of_quoted {pool : Pool} (h : Quoted r other pool) :
    ∃ plane, Placed r other plane pool := by
  cases h with
  | astroport hread hassets hd h => exact ⟨.cosmos, placed_of_response hread hassets hd h⟩
  | raydium h0 h1 hm h => exact ⟨.svm, placed_of_accounts h0 h1 hm h⟩
  | uniswap _ hp h => exact ⟨.evm, placed_of_reserves hp h⟩

/-! ## Accounts by their contents -/

/-- The data of a vault that holds an amount of a mint. -/
def vaultOf (mint : Text) (amount : Nat) : Bytes :=
  (Base58.decode mint).toOption.getD [] ++ List.replicate 32 0 ++ Bytes.ofLittleEndian 8 amount

/-- The state of a pool in which no fees have accrued. -/
def feelessState : Bytes := List.replicate FeeCounters.stateSize 0

end CrossVenue
