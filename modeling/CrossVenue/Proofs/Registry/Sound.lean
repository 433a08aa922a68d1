import CrossVenue.Proofs.Address.Key
import CrossVenue.Proofs.Reported
import CrossVenue.Registry.Builtin
import CrossVenue.Registry.Lookup

/-!
# Registries that can be told of

The names of a sound registry can stand in messages, its addresses on the SVM plane spell keys, and its
factors are words.  Then all that is asked of it is answered, or rejected in a message.

* `Registry.Sound` : what has to hold of a registry;
* `judged_mustSupport`, `judged_pairOutputDenom`, `judged_raydiumPool`, `judged_astroportContract` : what
  is rejected is reported;
* `builtin_sound` : the built-in registry is sound.
-/

set_option autoImplicit false

namespace CrossVenue

/-- The addresses of a Raydium pool. -/
def RaydiumPool.addresses (pool : RaydiumPool) : List Text :=
  [pool.authority, pool.ammConfig, pool.poolState, pool.token0Mint, pool.token1Mint,
    pool.token0Vault, pool.token1Vault, pool.observerState]

/-- The addresses of the programs that Raydium swaps call. -/
def RaydiumConfig.programs (c : RaydiumConfig) : List Text :=
  [c.programId, c.tokenProgramId, c.ataProgramId, c.systemProgramId]

namespace Registry

/-- A registry whose names are plain, whose addresses on the SVM plane spell keys, and whose factors are
words. -/
structure Sound (r : Registry) : Prop where
  settlement : r.settlementDenom.isPlain = true
  raydium_name : r.raydium.name.isPlain = true
  astroport_name : r.astroport.name.isPlain = true
  uniswap_name : r.uniswap.name.isPlain = true
  mints : ∀ d ∈ r.denoms.values, ∀ mint ∈ d.svmMint, mint.isPlain = true
  factors : ∀ d ∈ r.denoms.values, d.decimalFactor.val ≤ maxWord
  programs : ∀ a ∈ r.raydium.programs, IsKey a
  pools : ∀ pool ∈ r.raydium.pools.values, ∀ a ∈ pool.addresses, IsKey a

variable {r : Registry}

/-! ## What a sound registry answers -/

theorem Sound.isPlain_svmMint (hr : r.Sound) {denom : Text} (h : denom.isPlain = true) :
    (r.svmMint denom).isPlain = true := by
  unfold svmMint
  split
  · rename_i d hd
    cases hm : nonEmpty? d.svmMint with
    | none => exact h
    | some mint => exact hr.mints d (Table.mem_values_of_lookup hd) mint (nonEmpty?_eq_some_iff.1 hm).1
  · exact h

theorem Sound.decimalFactor_le (hr : r.Sound) (denom : Text) : r.decimalFactor denom ≤ maxWord := by
  unfold decimalFactor
  split
  · rename_i d hd
    exact hr.factors d (List.mem_of_find?_eq_some hd)
  · decide

/-- The accounts of a pool that is found spell keys. -/
theorem Sound.isKey_of_raydiumPool (hr : r.Sound) {pair : Text} {pool : RaydiumPool}
    (h : r.raydiumPool pair = .ok pool) : ∀ a ∈ pool.addresses, IsKey a := by
  simp only [raydiumPool, bind_eq_ok_iff] at h
  obtain ⟨-, -, h⟩ := h
  split at h
  · rename_i p hp
    cases h
    exact hr.pools _ (Table.mem_values_of_lookup hp)
  · cases h

/-! ## What it rejects -/

section

variable {pair : Text} (hpair : pair.isPlain = true)

include hpair

theorem judged_mustSupport (r : Registry) : Judged (r.mustSupport pair) := by
  unfold mustSupport
  split
  · exact .of_ok rfl
  · exact judged_reject (by simp [PairFault.sentence, hpair])

theorem judged_pairOutputDenom (r : Registry) {input : Text} (hi : input.isPlain = true) :
    Judged (r.pairOutputDenom input pair) := by
  unfold pairOutputDenom
  refine (judged_mustSupport hpair r).bind fun _ _ => ?_
  simp only
  split
  · exact .of_ok rfl
  split
  · exact .of_ok rfl
  · exact judged_reject (by simp [PairFault.sentence, hpair, hi])

theorem isPlain_of_pairOutputDenom {input other : Text}
    (h : r.pairOutputDenom input pair = .ok other) : other.isPlain = true := by
  have hparts : (splitPair pair).1.toList ⊆ pair.toList ∧ (splitPair pair).2.toList ⊆ pair.toList :=
    ⟨(List.takeWhile_sublist _).subset,
      ((List.drop_sublist _ _).trans (List.dropWhile_sublist _)).subset⟩
  simp only [pairOutputDenom, bind_eq_ok_iff] at h
  obtain ⟨-, -, h⟩ := h
  split at h
  · cases h
    exact Text.isPlain_of_subset hpair hparts.2
  split at h
  · cases h
    exact Text.isPlain_of_subset hpair hparts.1
  · cases h

theorem judged_raydiumPool (hr : r.Sound) : Judged (r.raydiumPool pair) := by
  unfold raydiumPool
  refine (judged_mustSupport hpair r).bind fun _ _ => ?_
  split
  · exact .of_ok rfl
  · exact judged_rejectAt hr.raydium_name (by simp [PairFault.sentence, hpair])

theorem judged_astroportContract (hr : r.Sound) : Judged (r.astroportContract pair) := by
  unfold astroportContract
  refine (judged_mustSupport hpair r).bind fun _ _ => ?_
  split
  · exact .of_ok rfl
  · exact judged_rejectAt hr.astroport_name (by simp [PairFault.sentence, hpair])

end

/-! ## The built-in registry -/

theorem builtin_sound : builtin.Sound where
  settlement := by decide +kernel
  raydium_name := by decide +kernel
  astroport_name := by decide +kernel
  uniswap_name := by decide +kernel
  mints := by decide +kernel
  factors := by decide +kernel
  programs := by decide +kernel
  pools := by decide +kernel

end Registry

end CrossVenue
