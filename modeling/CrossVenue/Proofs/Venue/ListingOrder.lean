import CrossVenue.Proofs.Encoding.Words
import CrossVenue.Proofs.Reported
import CrossVenue.Proofs.Venue.Orientation
import CrossVenue.Proofs.Venue.State

/-!
# The order in which a venue lists its assets

Two venues list the assets of a pool in an order of their own, and one of the two is the settlement asset.
Which of them is listed first does not matter to the pool that is quoted.  On the SVM plane the order shows
in the vaults and in four counters of accrued fees, which stand pairwise side by side in the state.

* `FeeCounters.exchanged` : the state of the same pool with its tokens in the other order;
* `FeeCounters.ofBytes_exchanged` : its counters are those of the state, exchanged;
* `SameOutcome` : the same value, the same failure, or rejections of the same kind;
* `listing_order_irrelevant` : what both venues quote in either order.
-/

set_option autoImplicit false

namespace CrossVenue

/-! ## The state with both pairs exchanged -/

namespace FeeCounters

/-- The counters of a state, one after the other, from the given places on. -/
def wordsAt (state : Bytes) (places : List Nat) : List Bytes :=
  places.map fun k => Bytes.slice state (offset + k) 8

/-- The state with both counters of the one token in place of those of the other one. -/
def exchanged (state : Bytes) : Bytes :=
  state.take offset ++ (wordsAt state [8, 0, 24, 16]).flatten ++ state.drop (offset + 32)

theorem length_of_mem_wordsAt {state : Bytes} (hsize : state.length = stateSize) {places : List Nat}
    (hplaces : ∀ k ∈ places, k ≤ 24) {w : Bytes} (hw : w ∈ wordsAt state places) : w.length = 8 := by
  obtain ⟨k, hk, rfl⟩ := List.mem_map.1 hw
  have hle := hplaces k hk
  rw [Bytes.slice, List.length_take, List.length_drop, hsize]
  simp only [offset, stateSize]
  omega

theorem length_exchanged (state : Bytes) : (exchanged state).length = state.length := by
  simp only [exchanged, wordsAt, Bytes.slice, List.map_cons, List.map_nil, List.flatten_cons,
    List.flatten_nil, List.length_append, List.length_take, List.length_drop, List.length_nil]
  omega

/-- **The counters of the exchanged state are those of the state, exchanged**; what is no state is none
either way. -/
theorem ofBytes_exchanged (state : Bytes) :
    ofBytes (exchanged state) = (ofBytes state).map swapped := by
  unfold ofBytes
  rw [length_exchanged]
  by_cases hsize : state.length = stateSize
  · have hword : ∀ {i : Nat} {w : Bytes}, (wordsAt state [8, 0, 24, 16])[i]? = some w →
        Bytes.slice (exchanged state) (offset + 8 * i) 8 = w := by
      intro i w hi
      have hbefore : (state.take offset).length = offset := by
        rw [List.length_take, hsize]
        rfl
      have hslice := Bytes.slice_flatten
        (fun w hw => length_of_mem_wordsAt hsize (by decide) hw) (state.take offset)
        (state.drop (offset + 32)) hi
      rw [hbefore] at hslice
      exact hslice
    have h0 : Bytes.slice (exchanged state) offset 8 = Bytes.slice state (offset + 8) 8 := @hword 0 _ rfl
    have h1 : Bytes.slice (exchanged state) (offset + 8) 8 = Bytes.slice state offset 8 := @hword 1 _ rfl
    have h2 : Bytes.slice (exchanged state) (offset + 16) 8 = Bytes.slice state (offset + 24) 8 :=
      @hword 2 _ rfl
    have h3 : Bytes.slice (exchanged state) (offset + 24) 8 = Bytes.slice state (offset + 16) 8 :=
      @hword 3 _ rfl
    rw [if_neg (not_not.2 hsize), if_neg (not_not.2 hsize), h0, h1, h2, h3]
    rfl
  · rw [if_pos hsize, if_pos hsize]
    rfl

end FeeCounters

/-! ## Outcomes -/

/-- Two computations end in the same value or the same failure, or in rejections of the same kind. -/
inductive SameOutcome {α : Type} : Attempt α → Attempt α → Prop
  | same (x : Attempt α) : SameOutcome x x
  | kind {e e' : Rejection} :
    e.kindName = e'.kindName → SameOutcome (.error (.rejected e)) (.error (.rejected e'))

theorem SameOutcome.of_eq {α : Type} {x y : Attempt α} (h : x = y) : SameOutcome x y := by
  subst h
  exact .same x

theorem SameOutcome.eq_ok {α : Type} {a : α} {y : Attempt α} (h : SameOutcome (.ok a) y) :
    y = .ok a := by
  cases h
  rfl

variable {r : Registry}

/-! ## Accounts -/

namespace Raydium

variable {vault0 vault1 state : Bytes} {p q : Side}

/-- What is read of accounts in the other order are the same sides. -/
theorem readsAs_exchanged_iff :
    ReadsAs vault1 vault0 (FeeCounters.exchanged state) q p ↔ ReadsAs vault0 vault1 state p q := by
  unfold ReadsAs
  constructor
  · rintro ⟨token1, token0, fees', h1, h0, hf, hs⟩
    rw [FeeCounters.ofBytes_exchanged, map_eq_ok_iff] at hf
    obtain ⟨fees, hf, rfl⟩ := hf
    cases hs
    exact ⟨token0, token1, fees, h0, h1, hf, rfl⟩
  · rintro ⟨token0, token1, fees, h0, h1, hf, hs⟩
    cases hs
    refine ⟨token1, token0, fees.swapped, h1, h0, ?_, rfl⟩
    rw [FeeCounters.ofBytes_exchanged, hf]
    rfl

/-- Data that is no token account is rejected as state. -/
theorem tokenAccount_failsOnly (vault : Bytes) :
    FailsOnly (fun e => e.kindName = "StateDecodeError") (TokenAccount.ofBytes vault) := by
  unfold TokenAccount.ofBytes
  split
  · exact .of_error rfl
  · exact .of_ok rfl

theorem poolOfAccounts_of_error {e : Rejection} (h : sidesOfAccounts vault0 vault1 state = .error e) :
    poolOfAccounts r vault0 vault1 state = .error e.failure := by
  rw [poolOfAccounts, h]
  rfl

/-- Vaults of which one cannot be read are rejected as state. -/
theorem poolOfAccounts_unread
    (h : ¬ ∃ token0 token1, TokenAccount.ofBytes vault0 = .ok token0 ∧
      TokenAccount.ofBytes vault1 = .ok token1) (state : Bytes) :
    ∃ e, poolOfAccounts r vault0 vault1 state = .error (.rejected e) ∧
      e.kindName = "StateDecodeError" := by
  obtain ⟨vault, e, he, hsides⟩ : ∃ vault e, TokenAccount.ofBytes vault = .error e ∧
      sidesOfAccounts vault0 vault1 state = .error e := by
    cases h0 : TokenAccount.ofBytes vault0 with
    | error e => exact ⟨vault0, e, h0, by rw [sidesOfAccounts, h0]; rfl⟩
    | ok token0 =>
      cases h1 : TokenAccount.ofBytes vault1 with
      | error e => exact ⟨vault1, e, h1, by rw [sidesOfAccounts, h0, bind_of_ok rfl, h1]; rfl⟩
      | ok token1 => exact absurd ⟨token0, token1, h0, h1⟩ h
  refine ⟨e, ?_, tokenAccount_failsOnly vault e he⟩
  rw [poolOfAccounts_of_error hsides, failure_of_isWritable (judged_tokenAccount vault e he).isWritable]

/-- Of two vaults that can be read, exactly one is of the settlement asset. -/
def OneSettled (r : Registry) (vault0 vault1 : Bytes) : Prop :=
  ∀ token0 token1, TokenAccount.ofBytes vault0 = .ok token0 → TokenAccount.ofBytes vault1 = .ok token1 →
    (token0.mint.toText = r.svmMint r.settlementDenom ↔
      token1.mint.toText ≠ r.svmMint r.settlementDenom)

/-- Accounts in either order give one pool, or are rejected in one way. -/
theorem poolOfAccounts_exchanged (h : ReadsAs vault0 vault1 state p q)
    (hone : OneSettled r vault0 vault1) :
    poolOfAccounts r vault1 vault0 (FeeCounters.exchanged state) =
      poolOfAccounts r vault0 vault1 state := by
  obtain ⟨token1, token0, fees', h1, h0, hf', hs'⟩ := readsAs_exchanged_iff.2 h
  obtain ⟨_, _, fees, h0', h1', hf, hs⟩ := h
  cases h0.symm.trans h0'
  cases h1.symm.trans h1'
  rw [poolOfAccounts_eq h1 h0 hf' hs', poolOfAccounts_eq h0 h1 hf hs]
  have hmint : p.mint = r.svmMint r.settlementDenom ↔ q.mint ≠ r.svmMint r.settlementDenom := by
    cases hs
    exact hone token0 token1 h0 h1
  rw [if_congr hmint rfl rfl, ite_not]

theorem poolOfAccounts_sameOutcome (hone : OneSettled r vault0 vault1) (state : Bytes) :
    SameOutcome (poolOfAccounts r vault0 vault1 state)
      (poolOfAccounts r vault1 vault0 (FeeCounters.exchanged state)) := by
  by_cases h : ∃ token0 token1, TokenAccount.ofBytes vault0 = .ok token0 ∧
      TokenAccount.ofBytes vault1 = .ok token1
  · obtain ⟨token0, token1, h0, h1⟩ := h
    cases hf : FeeCounters.ofBytes state with
    | ok fees =>
      exact .of_eq (poolOfAccounts_exchanged ⟨token0, token1, fees, h0, h1, hf, rfl⟩ hone).symm
    | error e =>
      -- a state of another length is as long with its counters exchanged
      have hf' : FeeCounters.ofBytes (FeeCounters.exchanged state) = .error e := by
        rw [FeeCounters.ofBytes_exchanged, hf]
        rfl
      have hsides : sidesOfAccounts vault0 vault1 state = .error e := by
        rw [sidesOfAccounts, h0, bind_of_ok rfl, h1, bind_of_ok rfl, hf]
        rfl
      have hsides' : sidesOfAccounts vault1 vault0 (FeeCounters.exchanged state) = .error e := by
        rw [sidesOfAccounts, h1, bind_of_ok rfl, h0, bind_of_ok rfl, hf']
        rfl
      exact .of_eq ((poolOfAccounts_of_error hsides).trans (poolOfAccounts_of_error hsides').symm)
  · have h' : ¬ ∃ token1 token0, TokenAccount.ofBytes vault1 = .ok token1 ∧
        TokenAccount.ofBytes vault0 = .ok token0 := by
      rintro ⟨token1, token0, h1, h0⟩
      exact h ⟨token0, token1, h0, h1⟩
    obtain ⟨e, he, hkind⟩ := poolOfAccounts_unread (r := r) h state
    obtain ⟨e', he', hkind'⟩ := poolOfAccounts_unread (r := r) h' (FeeCounters.exchanged state)
    rw [he, he']
    exact .kind (hkind.trans hkind'.symm)

end Raydium

/-! ## Lists of assets -/

namespace Astroport

variable {first second : Json} {p q : Json × Nat}

theorem poolOfPair_comm (hone : p.1 = .str r.settlementDenom ↔ q.1 ≠ .str r.settlementDenom) :
    poolOfPair r p q = poolOfPair r q p := by
  have htext : p.1.isText r.settlementDenom ↔ ¬ q.1.isText r.settlementDenom := by
    rw [Json.isText_iff, Json.isText_iff]
    exact hone
  rw [poolOfPair_eq, poolOfPair_eq, if_congr htext rfl rfl, ite_not]

/-- Two assets that can be read make one pool in either order. -/
theorem poolOfAssets_comm (hp : parseAsset first = .ok p) (hq : parseAsset second = .ok q)
    (hone : p.1 = .str r.settlementDenom ↔ q.1 ≠ .str r.settlementDenom) :
    ∃ pool, poolOfAssets r (.arr [first, second]) = .ok pool ∧
      poolOfAssets r (.arr [second, first]) = .ok pool := by
  have hreads : ReadsAs (.arr [first, second]) p q :=
    ⟨2, first, second, rfl, by decide, rfl, hp, hq⟩
  have hreads' : ReadsAs (.arr [second, first]) q p :=
    ⟨2, second, first, rfl, by decide, rfl, hq, hp⟩
  obtain ⟨pool, hpool⟩ := hreads.exists_pool (r := r)
  obtain ⟨p', q', ⟨_, _, _, -, -, ht, hp', hq'⟩, hpair⟩ := poolOfAssets_eq_ok_iff.1 hpool
  cases ht
  cases hp.symm.trans hp'
  cases hq.symm.trans hq'
  rw [poolOfPair_comm hone] at hpair
  exact ⟨pool, hpool, poolOfAssets_eq_ok_iff.2 ⟨q, p, hreads', hpair⟩⟩

end Astroport

/-! ## Both venues -/

/-- **What is quoted does not depend on the order in which a venue lists its two assets**, if exactly one
of them is the settlement asset.  Accounts with vaults and counters exchanged give the same pool, or fail
in the same way; and two assets that can be read are quoted as one pool in either order. -/
theorem listing_order_irrelevant (r : Registry) :
    (∀ vault0 vault1 state, Raydium.OneSettled r vault0 vault1 →
      SameOutcome (Raydium.poolOfAccounts r vault0 vault1 state)
        (Raydium.poolOfAccounts r vault1 vault0 (FeeCounters.exchanged state))) ∧
    ∀ first second p q, Astroport.parseAsset first = .ok p → Astroport.parseAsset second = .ok q →
      (p.1 = .str r.settlementDenom ↔ q.1 ≠ .str r.settlementDenom) →
      ∃ pool, Astroport.poolOfAssets r (.arr [first, second]) = .ok pool ∧
        Astroport.poolOfAssets r (.arr [second, first]) = .ok pool := by
  constructor
  · intro vault0 vault1 state hone
    exact Raydium.poolOfAccounts_sameOutcome hone state
  · intro first second p q hp hq hone
    exact Astroport.poolOfAssets_comm hp hq hone

/-- A state in which fees of three of token 0 and of a thousand of token 1 have accrued. -/
def accruedState : Bytes :=
  List.replicate FeeCounters.offset 0 ++ [2, 400, 1, 600].flatMap (Bytes.ofLittleEndian 8) ++
    List.replicate (FeeCounters.stateSize - FeeCounters.offset - 32) 0

/-- Ether is listed first and second: its vault keeps its own fees, and the quote does not change. -/
theorem ether_listed_either_way :
    Raydium.OneSettled .builtin (vaultOf etherMint 10) (vaultOf tetherMint 5000) ∧
    (∃ pool, Raydium.poolOfAccounts .builtin (vaultOf etherMint 10) (vaultOf tetherMint 5000)
          accruedState = .ok pool ∧
        Raydium.poolOfAccounts .builtin (vaultOf tetherMint 5000) (vaultOf etherMint 10)
          (FeeCounters.exchanged accruedState) = .ok pool ∧
        pool.reserveA = 4000 ∧ pool.reserveB = 7000000000) ∧
    (Astroport.parseAsset (nativeAsset "eth" "7") = .ok (.str "eth", 7) ∧
      Astroport.parseAsset (nativeAsset "usdt" "4000") = .ok (.str "usdt", 4000)) ∧
    ∃ pool, Astroport.poolOfAssets .builtin (.arr [nativeAsset "eth" "7", nativeAsset "usdt" "4000"]) =
        .ok pool ∧
      Astroport.poolOfAssets .builtin (.arr [nativeAsset "usdt" "4000", nativeAsset "eth" "7"]) =
        .ok pool := by
  have h0 : TokenAccount.ofBytes (vaultOf etherMint 10) = .ok _ := dif_neg (by decide +kernel)
  have h1 : TokenAccount.ofBytes (vaultOf tetherMint 5000) = .ok _ := dif_neg (by decide +kernel)
  have hf : FeeCounters.ofBytes accruedState = .ok ⟨2, 400, 1, 600⟩ := by decide +kernel
  have hone : Raydium.OneSettled .builtin (vaultOf etherMint 10) (vaultOf tetherMint 5000) := by
    intro token0 token1 ht0 ht1
    cases h0.symm.trans ht0
    cases h1.symm.trans ht1
    decide +kernel
  have hsides : Raydium.poolOfSides .builtin ⟨tetherMint, 4000⟩ ⟨etherMint, 7⟩ = .ok _ := rfl
  have hquoted := Raydium.parsePool_eq_ok_iff.2 ⟨hsides, by decide +kernel⟩
  have hpool : Raydium.poolOfAccounts .builtin (vaultOf etherMint 10) (vaultOf tetherMint 5000)
      accruedState = .ok _ :=
    (poolOfAccounts_eq h0 h1 hf (a := ⟨etherMint, 7⟩) (b := ⟨tetherMint, 4000⟩) (by decide +kernel)).trans
      ((if_neg (by decide +kernel)).trans hquoted)
  obtain ⟨haccounts, hassets⟩ := listing_order_irrelevant .builtin
  have hexchanged := haccounts _ _ accruedState hone
  rw [hpool] at hexchanged
  have hether : Astroport.parseAsset (nativeAsset "eth" "7") = .ok (.str "eth", 7) := rfl
  have htether : Astroport.parseAsset (nativeAsset "usdt" "4000") = .ok (.str "usdt", 4000) := rfl
  have hsettled : Json.str "eth" = .str Registry.builtin.settlementDenom ↔
      Json.str "usdt" ≠ .str Registry.builtin.settlementDenom := by
    refine iff_of_false ?_ fun hne => hne rfl
    intro h
    exact absurd (Json.str.inj h) (by decide +kernel)
  exact ⟨hone, ⟨_, hpool, hexchanged.eq_ok, rfl, rfl⟩, ⟨hether, htether⟩,
    hassets _ _ _ _ hether htether hsettled⟩

end CrossVenue
