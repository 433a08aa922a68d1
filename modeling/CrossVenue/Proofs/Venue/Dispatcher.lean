import CrossVenue.Proofs.Venue.Quoted
import CrossVenue.Proofs.Venue.Raydium
import CrossVenue.Venue.Dispatcher

/-!
# The venue that a swap reaches

In a coherent registry the three venues have different names, under which the dispatcher finds them.  A
swap on the venue of a plane becomes one message, in which the amount is given in the units of that
plane.

* `Dispatcher.composer_venueOn` : the composer of a plane's venue;
* `Dispatcher.composeSwap_offers` : what the message of a dispatched swap offers.
-/

set_option autoImplicit false

namespace CrossVenue

variable {r : Registry} {plane : Plane}

/-- The composer of the venue whose pools a plane holds. -/
def Composer.ofPlane (r : Registry) (budget : Json) : Plane → Composer
  | .svm => .raydium r budget
  | .evm => .uniswap r
  | _ => .astroport r

/-- The plane that executes swaps on the pools of a plane: contracts hold the assets of the COSMOS
plane. -/
def Plane.machine : Plane → Plane
  | .svm => .svm
  | .evm => .evm
  | _ => .wasm

/-- What the message of a swap calls the asset that goes in; the router is told a direction instead. -/
def Registry.offerNameOn (r : Registry) (denom : Text) : Plane → Option Text
  | .svm => some (r.svmMint denom)
  | .evm => none
  | _ => some denom.rejoined

namespace Dispatcher

/-- **The dispatcher finds every venue under its name.** -/
theorem composer_venueOn (hr : r.Coherent) (budget : Json) (plane : Plane) :
    (ofRegistry r budget).composer (r.venueOn plane) = .ok (Composer.ofPlane r budget plane) := by
  have hfound : ((ofRegistry r budget).entries.lookup (lookupKey (r.venueOn plane))).map
      Registered.composer = some (Composer.ofPlane r budget plane) := by
    simp only [ofRegistry, register_lookup, nameKey, qualifiedKey, Composer.qualifiedName,
      Composer.name, Composer.plane, hr.raydium_name, hr.astroport_name, hr.uniswap_name]
    cases plane with
    | svm =>
      rw [show r.venueOn .svm = "raydium" from hr.raydium_name, if_neg (by decide +kernel),
        if_neg (by decide +kernel), if_pos (by decide +kernel)]
      rfl
    | evm =>
      rw [show r.venueOn .evm = "uniswap" from hr.uniswap_name, if_pos (by decide +kernel)]
      rfl
    | cosmos =>
      rw [show r.venueOn .cosmos = "astroport" from hr.astroport_name,
        if_neg (by decide +kernel), if_pos (by decide +kernel)]
      rfl
    | wasm =>
      rw [show r.venueOn .wasm = "astroport" from hr.astroport_name,
        if_neg (by decide +kernel), if_pos (by decide +kernel)]
      rfl
  rw [composer, composer?, hfound]

/-- **A dispatched swap offers its amount in the units of its plane.** -/
theorem composeSwap_offers {room : Room} (hr : r.Coherent) {budget : Json} {swap : Swap}
    {is : List PlaneInstruction} (hv : swap.venue = r.venueOn plane)
    (h : (ofRegistry r budget).composeSwap room swap = .ok is) :
    ∃ i, ∃ n : Nat, is = [i] ∧ (n : Int) = swap.amount ∧ i.plane = plane.machine ∧
      i.offer? = some ⟨r.offerNameOn swap.denom plane,
        n / plane.unit (r.decimalFactor (r.svmMint swap.denom))⟩ := by
  simp only [composeSwap, hv, composer_venueOn hr, bind_eq_ok_iff, lift_eq_ok_iff,
    Except.ok.injEq, exists_eq_left'] at h
  cases plane with
  | svm => exact Raydium.composeSwap_offers h
  | evm =>
    obtain ⟨i, n, his, hn, hplane, hoffer⟩ := Uniswap.composeSwap_offers h
    refine ⟨i, n, his, hn, hplane, ?_⟩
    rw [Plane.unit_of_ne (by decide), Nat.div_one]
    exact hoffer
  | cosmos =>
    obtain ⟨i, n, his, hn, hplane, hoffer⟩ := Astroport.composeSwap_offers h
    refine ⟨i, n, his, hn, hplane, ?_⟩
    rw [Plane.unit_of_ne (by decide), Nat.div_one]
    exact hoffer
  | wasm =>
    obtain ⟨i, n, his, hn, hplane, hoffer⟩ := Astroport.composeSwap_offers h
    refine ⟨i, n, his, hn, hplane, ?_⟩
    rw [Plane.unit_of_ne (by decide), Nat.div_one]
    exact hoffer

end Dispatcher

end CrossVenue
