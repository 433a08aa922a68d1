import CrossVenue.Proofs.Pool.Quote

/-!
# What trades do to a pool

A trade credits the whole input and debits the quote; all else about the pool stays as it was.

* `trade_eq_ok_iff` : the pool after a trade, by its reserves and its terms;
* `exists_trade_iff` : a trade fails only if its quote fails or the credited reserve is no word;
* `trade_product_le` : the product of the reserves never gets smaller.
-/

set_option autoImplicit false

namespace CrossVenue.Pool

variable {p q : Pool} {d : Direction}

/-- What a pool is apart from its reserves. -/
def terms (p : Pool) : Listing := p.listing 0 0

theorem listing_eq_listing_iff {a b a' b' : Int} :
    p.listing a b = q.listing a' b' ↔ a = a' ∧ b = b' ∧ p.terms = q.terms := by
  simp only [terms, listing, Listing.ext_iff, true_and]
  constructor
  · rintro ⟨h1, h2, rfl, rfl, h3⟩
    exact ⟨rfl, rfl, h1, h2, h3⟩
  · rintro ⟨rfl, rfl, h1, h2, h3⟩
    exact ⟨h1, h2, rfl, rfl, h3⟩

theorem convention_eq_of_terms_eq (h : q.terms = p.terms) : q.convention = p.convention :=
  congrArg Listing.convention h

theorem keptRate_eq_of_terms_eq (h : q.terms = p.terms) : q.keptRate = p.keptRate := by
  have hf : (q.feeRate : Int) = p.feeRate := congrArg Listing.feeRate h
  rw [keptRate, keptRate, show q.feeRate = p.feeRate by exact_mod_cast hf]

theorem granularity_eq_of_terms_eq (h : q.terms = p.terms) : q.granularity = p.granularity := by
  have hg : (q.granularity : Int) = p.granularity := congrArg Listing.granularity h
  exact_mod_cast hg

theorem withReserves_eq_ok_iff {a b : Int} :
    p.withReserves a b = .ok q ↔
      (q.reserveA : Int) = a ∧ (q.reserveB : Int) = b ∧ q.terms = p.terms := by
  constructor
  · intro h
    exact listing_eq_listing_iff.1 (listing_of_toPool h)
  · intro h
    have hl : p.listing a b = q.listing q.reserveA q.reserveB := (listing_eq_listing_iff.2 h).symm
    rw [withReserves, hl]
    exact q.withReserves_self

/-- The reserves after a trade, in terms of what goes in and what comes out. -/
theorem trade_eq_ok_iff {x : Int} :
    p.trade x d = .ok q ↔
      ∃ y, p.quote x d = .ok y ∧ (q.reserveIn d : Int) = p.reserveIn d + x ∧
        (q.reserveOut d : Int) = p.reserveOut d - y ∧ q.terms = p.terms := by
  simp only [trade, bind_eq_ok_iff]
  refine exists_congr fun y => and_congr_right fun _ => ?_
  cases d with
  | aToB => exact withReserves_eq_ok_iff
  | bToA =>
    rw [withReserves_eq_ok_iff]
    exact and_left_comm

/-- **A trade fails only if its quote fails or the credited reserve is no word.** -/
theorem exists_trade_iff {x : Int} :
    (∃ q, p.trade x d = .ok q) ↔
      (∃ y, p.quote x d = .ok y) ∧ p.reserveIn d + x ≤ maxWord := by
  constructor
  · rintro ⟨q, h⟩
    obtain ⟨y, hq, hi, -⟩ := trade_eq_ok_iff.1 h
    refine ⟨⟨y, hq⟩, ?_⟩
    have hw : q.reserveIn d ≤ maxWord := by
      cases d with
      | aToB => exact q.reserveA_le
      | bToA => exact q.reserveB_le
    omega
  · rintro ⟨⟨y, hq⟩, hw⟩
    obtain ⟨n, rfl, -, -, rfl⟩ := quote_eq_ok_iff.1 hq
    have ho := p.output_le_reserveOut d n
    have hA := p.reserveA_le
    have hB := p.reserveB_le
    simp only [trade, hq, bind, Except.bind]
    cases d with
    | aToB =>
      simp only [reserveOut, reserveIn, Direction.flip] at ho hw
      exact ⟨{ p with
        reserveA := p.reserveA + n
        reserveB := p.reserveB - p.output .aToB n
        reserveA_le := by omega
        reserveB_le := by omega }, withReserves_eq_ok_iff.2 ⟨rfl, by simp only; omega, rfl⟩⟩
    | bToA =>
      simp only [reserveOut, reserveIn, Direction.flip] at ho hw
      exact ⟨{ p with
        reserveA := p.reserveA - p.output .bToA n
        reserveB := p.reserveB + n
        reserveA_le := by omega
        reserveB_le := by omega }, withReserves_eq_ok_iff.2 ⟨by simp only; omega, rfl, rfl⟩⟩

theorem reserveIn_mul_reserveOut (p : Pool) (d : Direction) :
    p.reserveIn d * p.reserveOut d = p.reserveA * p.reserveB := by
  cases d with
  | aToB => rfl
  | bToA => exact Nat.mul_comm _ _

/-- **A trade never makes the product of the reserves smaller.** -/
theorem trade_product_le {x : Int} (h : p.trade x d = .ok q) :
    p.reserveA * p.reserveB ≤ q.reserveA * q.reserveB := by
  obtain ⟨y, hq, hi, ho, -⟩ := trade_eq_ok_iff.1 h
  obtain ⟨n, rfl, -, -, rfl⟩ := quote_eq_ok_iff.1 hq
  have hi' : q.reserveIn d = p.reserveIn d + n := by omega
  have ho' : q.reserveOut d = p.reserveOut d - p.output d n := by omega
  have hp := p.product_le_of_output d n
  rwa [← hi', ← ho', reserveIn_mul_reserveOut, reserveIn_mul_reserveOut] at hp

end CrossVenue.Pool
