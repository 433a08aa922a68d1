import CrossVenue.Proofs.Venue.Quoted

/-!
# Which asset a quoted pool calls asset A

Whoever compares pools takes asset A for the settlement asset.  Both venues that read assets from state
ask the first of two assets alone whether it is the settlement asset, and exchange them otherwise.  So
asset A is the settlement asset of a pool that holds it, but a pool that does not is quoted too, with the
second of its assets for asset A.

* `Pool.Oriented` : how the two assets of a pool stand;
* `Astroport.poolOfAssets_eq_ok_iff`, `Raydium.poolOfAccounts_eq_ok_iff` : what is quoted;
* `denomA_settled_iff` : asset A is the settlement asset exactly if one of the two assets is, and no
  state is rejected because neither of them is.
-/

set_option autoImplicit false

namespace CrossVenue

/-- A pool of two assets and what it holds of them; asset B is counted in steps of the pool. -/
structure Pool.Holds (pool : Pool) (a b : Json × Int) : Prop where
  denomA_eq : pool.denomA = a.1
  denomB_eq : pool.denomB = b.1
  reserveA_eq : (pool.reserveA : Int) = a.2
  reserveB_eq : (pool.reserveB : Int) = b.2 * pool.granularity

/-- A pool of two assets, of which only the first one was asked whether it is the settlement asset. -/
structure Pool.Oriented (pool : Pool) (settlement : Json) (p q : Json × Int) : Prop where
  kept : p.1 = settlement → pool.Holds p q
  exchanged : p.1 ≠ settlement → pool.Holds q p

theorem Pool.Oriented.denomA_eq_iff {pool : Pool} {settlement : Json} {p q : Json × Int}
    (h : pool.Oriented settlement p q) :
    pool.denomA = settlement ↔ p.1 = settlement ∨ q.1 = settlement := by
  by_cases hp : p.1 = settlement
  · simp only [(h.kept hp).denomA_eq, hp, true_or]
  · simp only [(h.exchanged hp).denomA_eq, hp, false_or]

/-- A listing is taken if all its quantities are in range. -/
theorem exists_toPool {l : Listing} (ha : 0 ≤ l.reserveA ∧ l.reserveA ≤ maxWord)
    (hb : 0 ≤ l.reserveB ∧ l.reserveB ≤ maxWord) (hf : 0 ≤ l.feeRate ∧ l.feeRate ≤ feeScale)
    (hg : 1 ≤ l.granularity) : ∃ pool, l.toPool = .ok pool := by
  unfold Listing.toPool
  rw [dif_neg (by omega), dif_neg (by omega), dif_neg (by omega), dif_neg (by omega),
    dif_neg (by omega)]
  exact ⟨_, rfl⟩

variable {r : Registry} {pool : Pool}

/-! ## Lists of assets -/

namespace Astroport

variable {assets : Json} {p q : Json × Nat}

/-- The two assets that a list begins with, if they can be read. -/
def ReadsAs (assets : Json) (p q : Json × Nat) : Prop :=
  ∃ n first second, size assets = .ok n ∧ ¬ n < 2 ∧ firstTwo assets = .ok (first, second) ∧
    parseAsset first = .ok p ∧ parseAsset second = .ok q

/-- **What is quoted from a list of assets.** -/
theorem poolOfAssets_eq_ok_iff :
    poolOfAssets r assets = .ok pool ↔
      ∃ p q, ReadsAs assets p q ∧ poolOfPair r p q = .ok pool := by
  simp only [poolOfAssets, bind_eq_ok_iff]
  constructor
  · rintro ⟨n, hn, h⟩
    split at h
    · cases h
    · rename_i hlt
      simp only [bind_eq_ok_iff, lift_eq_ok_iff] at h
      obtain ⟨⟨first, second⟩, ht, p, hp, q, hq, h⟩ := h
      exact ⟨p, q, ⟨n, first, second, hn, hlt, ht, hp, hq⟩, h⟩
  · rintro ⟨p, q, ⟨n, first, second, hn, hlt, ht, hp, hq⟩, h⟩
    refine ⟨n, hn, ?_⟩
    rw [if_neg hlt]
    simp only [bind_eq_ok_iff, lift_eq_ok_iff]
    exact ⟨(first, second), ht, p, hp, q, hq, h⟩

theorem parseAsset_le {asset : Json} (h : parseAsset asset = .ok p) : p.2 ≤ maxWord128 := by
  simp only [parseAsset, bind_eq_ok_iff] at h
  obtain ⟨⟨denom, amount⟩, -, h⟩ := h
  split at h
  · cases h
  · cases h
    simp only
    omega

theorem ReadsAs.amounts_le (h : ReadsAs assets p q) : p.2 ≤ maxWord128 ∧ q.2 ≤ maxWord128 := by
  obtain ⟨_, _, _, _, _, _, hp, hq⟩ := h
  exact ⟨parseAsset_le hp, parseAsset_le hq⟩

/-- An asset as a pool holds it. -/
def held (p : Json × Nat) : Json × Int := (p.1, p.2)

/-- The pool of two assets in the order of the pool. -/
def listingOf (r : Registry) (a b : Json × Nat) : Listing :=
  { venue := r.astroport.name
    plane := Plane.cosmos.name
    reserveA := a.2
    reserveB := b.2
    feeRate := r.astroport.feeRate.val
    convention := .postFee
    denomA := a.1
    denomB := b.1
    granularity := 1 }

theorem poolOfPair_eq (r : Registry) (p q : Json × Nat) :
    poolOfPair r p q =
      if p.1.isText r.settlementDenom then (listingOf r p q).toPool
      else (listingOf r q p).toPool := by
  by_cases hp : p.1.isText r.settlementDenom
  · simp only [poolOfPair, hp, if_true, listingOf]
  · simp only [poolOfPair, hp, listingOf]
    rfl

theorem holds_of_listingOf {a b : Json × Nat} (h : (listingOf r a b).toPool = .ok pool) :
    pool.Holds (held a) (held b) := by
  obtain ⟨-, -, hA, hB⟩ := toPool_names h
  obtain ⟨ha, hb, -, hg⟩ := toPool_reserves h
  refine ⟨hA, hB, ha, ?_⟩
  rw [hb, hg]
  exact (Int.mul_one _).symm

theorem exists_listingOf {a b : Json × Nat} (ha : a.2 ≤ maxWord128) (hb : b.2 ≤ maxWord128) :
    ∃ pool, (listingOf r a b).toPool = .ok pool := by
  have hword : maxWord128 ≤ maxWord := by decide
  have hfee := r.astroport.feeRate.property
  refine exists_toPool ?_ ?_ ?_ (Int.le_refl 1)
  · simp only [listingOf]
    omega
  · simp only [listingOf]
    omega
  · simp only [listingOf]
    omega

theorem oriented_of_pair (h : poolOfPair r p q = .ok pool) :
    pool.Oriented (.str r.settlementDenom) (held p) (held q) := by
  rw [poolOfPair_eq] at h
  refine ⟨fun (hp : p.1 = _) => ?_, fun (hp : p.1 ≠ _) => ?_⟩
  · rw [if_pos (Json.isText_iff.2 hp)] at h
    exact holds_of_listingOf h
  · rw [if_neg (mt Json.isText_iff.1 hp)] at h
    exact holds_of_listingOf h

/-- Two assets that can be read are always quoted. -/
theorem ReadsAs.exists_pool (h : ReadsAs assets p q) : ∃ pool, poolOfAssets r assets = .ok pool := by
  obtain ⟨hp, hq⟩ := h.amounts_le
  have hpair : ∃ pool, poolOfPair r p q = .ok pool := by
    rw [poolOfPair_eq]
    split
    · exact exists_listingOf hp hq
    · exact exists_listingOf hq hp
  obtain ⟨pool, hpool⟩ := hpair
  exact ⟨pool, poolOfAssets_eq_ok_iff.2 ⟨p, q, h, hpool⟩⟩

end Astroport

/-! ## Accounts -/

namespace Raydium

variable {vault0 vault1 state : Bytes} {p q : Side}

/-- The two sides of a pool's accounts, if they can be read. -/
def ReadsAs (vault0 vault1 state : Bytes) (p q : Side) : Prop :=
  ∃ token0 token1 fees, TokenAccount.ofBytes vault0 = .ok token0 ∧
    TokenAccount.ofBytes vault1 = .ok token1 ∧ FeeCounters.ofBytes state = .ok fees ∧
    sides token0 token1 fees = (p, q)

theorem sidesOfAccounts_eq_ok_iff :
    sidesOfAccounts vault0 vault1 state = .ok (p, q) ↔ ReadsAs vault0 vault1 state p q := by
  simp only [sidesOfAccounts, ReadsAs, bind_eq_ok_iff, Except.ok.injEq, exists_and_left]

/-- **What is quoted from accounts.** -/
theorem poolOfAccounts_eq_ok_iff :
    poolOfAccounts r vault0 vault1 state = .ok pool ↔
      ∃ p q, ReadsAs vault0 vault1 state p q ∧
        (if p.mint = r.svmMint r.settlementDenom then parsePool r p q
          else parsePool r q p) = .ok pool := by
  simp only [poolOfAccounts, bind_eq_ok_iff, lift_eq_ok_iff, Prod.exists, sidesOfAccounts_eq_ok_iff]

/-- A side as a pool holds it. -/
def held (p : Side) : Json × Int := (.str p.mint, p.reserve)

theorem holds_of_sides {a b : Side} (h : poolOfSides r a b = .ok pool) :
    pool.Holds (held a) (held b) := by
  unfold poolOfSides at h
  split at h
  · cases h
  · obtain ⟨-, -, hA, hB⟩ := toPool_names h
    obtain ⟨ha, hb, -, hg⟩ := toPool_reserves h
    refine ⟨hA, hB, ha, ?_⟩
    rw [hb, hg]
    rfl

theorem oriented_of_accounts
    (h : (if p.mint = r.svmMint r.settlementDenom then parsePool r p q
      else parsePool r q p) = .ok pool) :
    pool.Oriented (.str (r.svmMint r.settlementDenom)) (held p) (held q) := by
  refine ⟨fun hp => ?_, fun hp => ?_⟩
  · rw [if_pos (Json.str.inj hp)] at h
    exact holds_of_sides (parsePool_eq_ok_iff.1 h).1
  · rw [if_neg fun hm => hp (congrArg Json.str hm)] at h
    exact holds_of_sides (parsePool_eq_ok_iff.1 h).1

/-- Sides whose reserves are not below zero, and words in the units of the pool, make a pool. -/
theorem exists_poolOfSides {a b : Side} (ha : 0 ≤ a.reserve ∧ a.reserve ≤ maxWord)
    (hb : 0 ≤ b.reserve ∧ b.reserve * r.decimalFactor b.mint ≤ maxWord) :
    ∃ pool, poolOfSides r a b = .ok pool := by
  have hfee := r.raydium.feeRate.property
  have hfactor := r.decimalFactor_pos b.mint
  unfold poolOfSides
  rw [if_neg (by omega)]
  refine exists_toPool ha ⟨?_, hb.2⟩ ?_ ?_
  · exact Int.mul_nonneg hb.1 (Int.natCast_nonneg _)
  · simp only
    omega
  · simp only
    omega

/-- What of a side has to be in range: its reserve, and its steps, which the log shows. -/
structure Fits (r : Registry) (p : Side) : Prop where
  reserve_nonneg : 0 ≤ p.reserve
  reserve_scaled_le : p.reserve * r.decimalFactor p.mint ≤ maxWord
  isWritable_factor : Number.isWritable (r.decimalFactor p.mint) = true

theorem Fits.reserve_le {p : Side} (h : Fits r p) : p.reserve ≤ maxWord := by
  have hfactor : (1 : Int) ≤ r.decimalFactor p.mint := by exact_mod_cast r.decimalFactor_pos p.mint
  calc p.reserve = p.reserve * 1 := (Int.mul_one _).symm
    _ ≤ p.reserve * r.decimalFactor p.mint :=
      Int.mul_le_mul_of_nonneg_left hfactor h.reserve_nonneg
    _ ≤ maxWord := h.reserve_scaled_le

theorem Fits.exists_pool {p q : Side} (hp : Fits r p) (hq : Fits r q) :
    ∃ pool, parsePool r p q = .ok pool := by
  obtain ⟨pool, hpool⟩ := exists_poolOfSides (r := r) ⟨hp.reserve_nonneg, hp.reserve_le⟩
    ⟨hq.reserve_nonneg, hq.reserve_scaled_le⟩
  exact ⟨pool, parsePool_eq_ok_iff.2 ⟨hpool, hq.isWritable_factor⟩⟩

/-- Sides that can be read and that fit are always quoted. -/
theorem ReadsAs.exists_pool (h : ReadsAs vault0 vault1 state p q) (hp : Fits r p) (hq : Fits r q) :
    ∃ pool, poolOfAccounts r vault0 vault1 state = .ok pool := by
  have hsides : ∃ pool, (if p.mint = r.svmMint r.settlementDenom then parsePool r p q
      else parsePool r q p) = .ok pool := by
    split
    · exact hp.exists_pool hq
    · exact hq.exists_pool hp
  obtain ⟨pool, hpool⟩ := hsides
  exact ⟨pool, poolOfAccounts_eq_ok_iff.2 ⟨p, q, h, hpool⟩⟩

end Raydium

/-! ## Both venues -/

/-- **Asset A of a quoted pool is the settlement asset exactly if one of its two assets is.**  Reserves
stay with their assets.  Whether a pool is quoted depends on amounts and sizes alone: state in which
neither asset is the settlement asset is quoted like any other, and the asset that it lists second is
asset A. -/
theorem denomA_settled_iff (r : Registry) :
    (∀ assets pool, Astroport.poolOfAssets r assets = .ok pool →
      ∃ p q, Astroport.ReadsAs assets p q ∧
        pool.Oriented (.str r.settlementDenom) (Astroport.held p) (Astroport.held q) ∧
        (pool.denomA = .str r.settlementDenom ↔
          p.1 = .str r.settlementDenom ∨ q.1 = .str r.settlementDenom)) ∧
    (∀ assets p q, Astroport.ReadsAs assets p q → ∃ pool, Astroport.poolOfAssets r assets = .ok pool) ∧
    (∀ vault0 vault1 state pool, Raydium.poolOfAccounts r vault0 vault1 state = .ok pool →
      ∃ p q, Raydium.ReadsAs vault0 vault1 state p q ∧
        pool.Oriented (.str (r.svmMint r.settlementDenom)) (Raydium.held p) (Raydium.held q) ∧
        (pool.denomA = .str (r.svmMint r.settlementDenom) ↔
          p.mint = r.svmMint r.settlementDenom ∨ q.mint = r.svmMint r.settlementDenom)) ∧
    ∀ vault0 vault1 state p q, Raydium.ReadsAs vault0 vault1 state p q →
      Raydium.Fits r p → Raydium.Fits r q →
      ∃ pool, Raydium.poolOfAccounts r vault0 vault1 state = .ok pool := by
  refine ⟨fun assets pool h => ?_, fun assets p q h => h.exists_pool,
    fun vault0 vault1 state pool h => ?_, fun vault0 vault1 state p q h hp hq => h.exists_pool hp hq⟩
  · obtain ⟨p, q, hreads, hpair⟩ := Astroport.poolOfAssets_eq_ok_iff.1 h
    have ho := Astroport.oriented_of_pair hpair
    exact ⟨p, q, hreads, ho, ho.denomA_eq_iff⟩
  · obtain ⟨p, q, hreads, hsides⟩ := Raydium.poolOfAccounts_eq_ok_iff.1 h
    have ho := Raydium.oriented_of_accounts hsides
    refine ⟨p, q, hreads, ho, ?_⟩
    rw [ho.denomA_eq_iff]
    simp only [Raydium.held, Json.str.injEq]

/-- A native asset as a pool query describes it. -/
def nativeAsset (denom amount : Text) : Json :=
  .obj [("info", .obj [("native_token", .obj [("denom", .str denom)])]), ("amount", .str amount)]

/-- The assets of a pool that trades bitcoin for ether. -/
def foreignAssets : Json := .arr [nativeAsset "btc" "1000", nativeAsset "eth" "2000"]

/-- **Pools without the settlement asset are quoted**, from a list of assets and from accounts alike: the
second asset is asset A. -/
theorem foreign_pools_quoted :
    (∃ pool, Astroport.poolOfAssets .builtin foreignAssets = .ok pool ∧
      pool.denomA = .str "eth" ∧ pool.denomA ≠ .str Registry.builtin.settlementDenom) ∧
    ∃ pool, Raydium.poolOfAccounts .builtin (List.replicate TokenAccount.minSize 0)
        (List.replicate TokenAccount.minSize 0) (List.replicate FeeCounters.stateSize 0) = .ok pool ∧
      pool.denomA = .str "11111111111111111111111111111111" ∧
      pool.denomA ≠ .str (Registry.builtin.svmMint Registry.builtin.settlementDenom) := by
  constructor
  · exact ⟨_, rfl, rfl, fun h => absurd (Json.str.inj h) (by decide +kernel)⟩
  · have hv : TokenAccount.ofBytes (List.replicate TokenAccount.minSize 0) = .ok _ :=
      dif_neg (by decide +kernel)
    have hf : FeeCounters.ofBytes (List.replicate FeeCounters.stateSize 0) = .ok ⟨0, 0, 0, 0⟩ := by
      decide +kernel
    have hpool := poolOfAccounts_eq hv hv hf (r := .builtin)
      (a := ⟨"11111111111111111111111111111111", 0⟩) (b := ⟨"11111111111111111111111111111111", 0⟩)
      (by decide +kernel)
    have hsides : ∃ pool, Raydium.poolOfSides .builtin ⟨"11111111111111111111111111111111", 0⟩
        ⟨"11111111111111111111111111111111", 0⟩ = .ok pool ∧
        pool.denomA = .str "11111111111111111111111111111111" := ⟨_, rfl, rfl⟩
    obtain ⟨pool, hsides, hdenom⟩ := hsides
    have hparsed := Raydium.parsePool_eq_ok_iff.2 ⟨hsides, by decide +kernel⟩
    refine ⟨pool, hpool.trans ((if_neg (by decide +kernel)).trans hparsed), hdenom, ?_⟩
    rw [hdenom]
    exact fun h => absurd (Json.str.inj h) (by decide +kernel)

/-! ## A pool of ether -/

namespace Raydium

theorem readsAs_etherVaults :
    ReadsAs (vaultOf etherMint 3) (vaultOf tetherMint 1000) feelessState ⟨etherMint, 3⟩
      ⟨tetherMint, 1000⟩ :=
  ⟨_, _, ⟨0, 0, 0, 0⟩, dif_neg (by decide +kernel), dif_neg (by decide +kernel), by decide +kernel,
    by decide +kernel⟩

/-- The pool of these vaults is that of their sides, the settlement asset's first. -/
theorem etherPool_quoted :
    poolOfAccounts .builtin (vaultOf etherMint 3) (vaultOf tetherMint 1000) feelessState = .ok pool ↔
      poolOfSides .builtin ⟨tetherMint, 1000⟩ ⟨etherMint, 3⟩ = .ok pool := by
  obtain ⟨token0, token1, fees, h0, h1, hf, hs⟩ := readsAs_etherVaults
  rw [poolOfAccounts_eq h0 h1 hf hs, if_neg (by decide +kernel), parsePool_eq_ok_iff,
    and_iff_left (by decide +kernel)]

end Raydium

end CrossVenue
