import CrossVenue.Registry.Builtin
import CrossVenue.Registry.Lookup
import CrossVenue.Venue.Transfer
import Mathlib.Data.List.Find
import Mathlib.Data.List.Nodup

/-!
# One factor for every asset

Three lookups find the decimal factor of an asset: by symbol or mint when pools are quoted and swaps are
composed, by mint when the SVM plane is left, by key when it is entered.  In a coherent registry they
agree.

* `Registry.Coherent` : keys are symbols, and mints name one asset each;
* `decimalFactor_symbol`, `decimalFactor_svmMint`, `factorOfMint_svmMint`, `factorOfSymbol_symbol` : what
  the lookups find for an asset of the registry;
* `settlement_factors` : what they find for the settlement asset;
* `Registry.builtin_coherent` : the built-in registry is coherent;
* `Plane.unit`, `Registry.nameOn`, `Registry.venueOn` : in which units a plane counts an asset, what it
  calls the asset, and which venue's pools it holds.
-/

set_option autoImplicit false

namespace CrossVenue

/-- A registry with the usual names of venues, whose assets are told apart by symbol and by mint, and
whose settlement asset has the same units everywhere. -/
structure Registry.Coherent (r : Registry) : Prop where
  raydium_name : r.raydium.name = "raydium"
  astroport_name : r.astroport.name = "astroport"
  uniswap_name : r.uniswap.name = "uniswap"
  keyed : ∀ p ∈ r.denoms, p.1 = p.2.symbol
  minted : ∀ d ∈ r.denoms.values, ∃ mint, d.svmMint = some mint ∧ mint ≠ ""
  mints_nodup : (r.denoms.values.map Denom.svmMint).Nodup
  mint_ne_symbol : ∀ d ∈ r.denoms.values, ∀ e ∈ r.denoms.values, d.svmMint ≠ some e.symbol
  settlement_factor : r.decimalFactor r.settlementDenom = 1

namespace Registry.Coherent

variable {r : Registry} {symbol mint : Text} {d : Denom}

/-! ## Assets by key -/

theorem symbol_of_lookup (hr : r.Coherent) (h : r.denoms.lookup symbol = some d) :
    d.symbol = symbol :=
  (hr.keyed _ (Table.mem_of_lookup h)).symm

/-- The first asset with a symbol is the one that has it as its key. -/
theorem find?_symbol {t : Table Denom} (hk : ∀ p ∈ t, p.1 = p.2.symbol) (s : Text) :
    (t.values.find? fun d => d.symbol == s) = t.lookup s := by
  induction t with
  | nil => rfl
  | cons p t ih =>
    have hp := hk p (by simp)
    have ih := ih fun q hq => hk q (by simp [hq])
    show (p.2 :: Table.values t).find? _ = _
    rw [List.find?_cons, List.lookup_cons, ← hp, ih, Bool.beq_comm]

/-! ## Assets by mint -/

/-- The mint that a symbol of the registry stands for. -/
theorem svmMint_of_lookup (hr : r.Coherent) (h : r.denoms.lookup symbol = some d) :
    d.svmMint = some (r.svmMint symbol) ∧ r.svmMint symbol ≠ "" := by
  obtain ⟨m, hm, hne⟩ := hr.minted d (Table.mem_values_of_lookup h)
  have hs : nonEmpty? (some m) = some m := nonEmpty?_eq_some_iff.2 ⟨rfl, hne⟩
  have hmint : r.svmMint symbol = m := by
    rw [Registry.svmMint, h]
    simp only [hm, hs, Option.getD_some]
  rw [hmint]
  exact ⟨hm, hne⟩

theorem eq_of_mint (hr : r.Coherent) {e : Denom} (hd : d ∈ r.denoms.values)
    (he : e ∈ r.denoms.values) (hm : e.svmMint = d.svmMint) : e = d :=
  List.inj_on_of_nodup_map hr.mints_nodup he hd hm

/-- What names assets by mint alone finds what names them by symbol or mint, if no symbol is meant. -/
theorem factorOfMint_eq (hr : r.Coherent) (h : ∀ d ∈ r.denoms.values, d.symbol ≠ mint) :
    Transfer.factorOfMint r (.str mint) = r.decimalFactor mint := by
  unfold Transfer.factorOfMint Registry.decimalFactor
  congr 1
  refine List.find?_congr fun d hd => ?_
  obtain ⟨m, hm, hne⟩ := hr.minted d hd
  have hs : nonEmpty? (some m) = some m := nonEmpty?_eq_some_iff.2 ⟨rfl, hne⟩
  have hsym : (d.symbol == mint) = false := by simpa using h d hd
  rw [Denom.isNamed, hsym, hm, hs, Bool.false_or, Bool.eq_iff_iff]
  simp only [Json.isText, beq_iff_eq, Option.some.injEq]
  exact eq_comm

/-! ## The lookups agree -/

theorem decimalFactor_symbol (hr : r.Coherent) (h : r.denoms.lookup symbol = some d) :
    r.decimalFactor symbol = d.decimalFactor.val := by
  have hc : (r.denoms.values.find? fun e => e.isNamed symbol) = r.denoms.lookup symbol := by
    rw [← find?_symbol hr.keyed]
    refine List.find?_congr fun e he => ?_
    have hne : e.svmMint ≠ some symbol := by
      rw [← hr.symbol_of_lookup h]
      exact hr.mint_ne_symbol e he d (Table.mem_values_of_lookup h)
    simp [Denom.isNamed, hne]
  rw [Registry.decimalFactor, hc, h]

theorem decimalFactor_svmMint (hr : r.Coherent) (h : r.denoms.lookup symbol = some d) :
    r.decimalFactor (r.svmMint symbol) = d.decimalFactor.val := by
  obtain ⟨hm, -⟩ := hr.svmMint_of_lookup h
  have hd := Table.mem_values_of_lookup h
  unfold Registry.decimalFactor
  cases hf : r.denoms.values.find? fun e => e.isNamed (r.svmMint symbol) with
  | none =>
    have := List.find?_eq_none.1 hf d hd
    simp [Denom.isNamed, hm] at this
  | some e =>
    have he := List.mem_of_find?_eq_some hf
    have hn := List.find?_some hf
    simp only [Denom.isNamed, Bool.or_eq_true, beq_iff_eq] at hn
    rcases hn with hn | hn
    · exact absurd (hn ▸ hm) (hr.mint_ne_symbol d hd e he)
    · rw [hr.eq_of_mint hd he (hn.trans hm.symm)]

theorem factorOfMint_svmMint (hr : r.Coherent) (h : r.denoms.lookup symbol = some d) :
    Transfer.factorOfMint r (.str (r.svmMint symbol)) = d.decimalFactor.val := by
  obtain ⟨hm, -⟩ := hr.svmMint_of_lookup h
  rw [hr.factorOfMint_eq fun e he => ?_, hr.decimalFactor_svmMint h]
  intro hs
  exact hr.mint_ne_symbol d (Table.mem_values_of_lookup h) e he (hs ▸ hm)

theorem factorOfSymbol_symbol (h : r.denoms.lookup symbol = some d) :
    Transfer.factorOfSymbol r (.str symbol) = .ok d.decimalFactor.val := by
  simp only [Transfer.factorOfSymbol, h]

/-- **The settlement asset has the same units everywhere**, whether or not the registry lists it. -/
theorem settlement_factors (hr : r.Coherent) :
    r.decimalFactor (r.svmMint r.settlementDenom) = 1 ∧
      Transfer.factorOfMint r (.str (r.svmMint r.settlementDenom)) = 1 ∧
      Transfer.factorOfSymbol r (.str r.settlementDenom) = .ok 1 := by
  have hone := hr.settlement_factor
  cases h : r.denoms.lookup r.settlementDenom with
  | some d =>
    rw [hr.decimalFactor_symbol h] at hone
    rw [hr.decimalFactor_svmMint h, hr.factorOfMint_svmMint h, factorOfSymbol_symbol h, hone]
    exact ⟨rfl, rfl, rfl⟩
  | none =>
    have hm : r.svmMint r.settlementDenom = r.settlementDenom := by rw [Registry.svmMint, h]
    have hs : ∀ d ∈ r.denoms.values, d.symbol ≠ r.settlementDenom := by
      intro d hd
      obtain ⟨p, hp, rfl⟩ := List.mem_map.1 hd
      have := List.lookup_eq_none_iff.1 h p hp
      rw [← hr.keyed p hp]
      intro heq
      simp [heq] at this
    rw [hm, hr.factorOfMint_eq hs, hone]
    exact ⟨rfl, rfl, by simp only [Transfer.factorOfSymbol, h]⟩

end Registry.Coherent

/-- **The built-in registry is coherent.** -/
theorem Registry.builtin_coherent : Registry.builtin.Coherent where
  raydium_name := rfl
  astroport_name := rfl
  uniswap_name := rfl
  keyed := by decide +kernel
  minted := by
    intro d hd
    have hmint : d.svmMint.isSome ∧ d.svmMint ≠ some ("" : Text) := by
      revert d
      decide +kernel
    obtain ⟨mint, hm⟩ := Option.isSome_iff_exists.1 hmint.1
    exact ⟨mint, hm, fun h => hmint.2 (hm.trans (congrArg some h))⟩
  mints_nodup := by decide +kernel
  mint_ne_symbol := by decide +kernel
  settlement_factor := by decide +kernel

/-! ## What planes call and count -/

/-- How many units elsewhere make up one unit of an asset on a plane. -/
def Plane.unit (factor : Nat) : Plane → Nat
  | .svm => factor
  | _ => 1

@[simp] theorem Plane.unit_one (plane : Plane) : plane.unit 1 = 1 := by
  cases plane <;> rfl

theorem Plane.unit_of_ne {plane : Plane} (h : plane ≠ .svm) (factor : Nat) :
    plane.unit factor = 1 := by
  cases plane with
  | svm => exact absurd rfl h
  | _ => rfl

namespace Registry

/-- What a plane calls an asset. -/
def nameOn (r : Registry) (denom : Text) : Plane → Text
  | .svm => r.svmMint denom
  | _ => denom

/-- The venue whose pools a plane holds. -/
def venueOn (r : Registry) : Plane → Text
  | .svm => r.raydium.name
  | .evm => r.uniswap.name
  | _ => r.astroport.name

end Registry

end CrossVenue
