import CrossVenue.Json.Value
import CrossVenue.Number.Word

/-!
# Two-asset pools

A pool holds reserves of two assets, and charges a fee in parts of a million.  Asset A is the
settlement asset whenever pools are compared.  Amounts of asset B that cross planes come in multiples
of the pool's granularity.  Reserves are words, the fee is at most everything, the granularity is at
least one: these invariants are part of the type, and `Listing.toPool` establishes them.

* `toPool_reserves`, `listing_of_toPool` : an accepted listing is taken over as it stands;
* `withReserves_self` : a pool's own reserves are in range;
* `reversed_reversed` : exchanging the assets twice changes nothing.
-/

set_option autoImplicit false

namespace CrossVenue

/-- The whole, in the unit in which fees are given. -/
def feeScale : Nat := 1000000

/-- Where a venue deducts its fee. -/
inductive FeeConvention
  | preFee
  | postFee
  | other (name : Text)
deriving DecidableEq, Repr

/-- The name of a convention. -/
def FeeConvention.name : FeeConvention → Text
  | .preFee => "pre_fee"
  | .postFee => "post_fee"
  | .other name => name

/-- The convention of a name. -/
def FeeConvention.ofName (name : Text) : FeeConvention :=
  if name = "pre_fee" then .preFee else if name = "post_fee" then .postFee else .other name

theorem FeeConvention.name_ofName (name : Text) : (ofName name).name = name := by
  unfold ofName
  split
  · simp_all [FeeConvention.name]
  · split
    · simp_all [FeeConvention.name]
    · rfl

/-- Which asset goes in and which comes out. -/
inductive Direction
  | aToB
  | bToA
deriving DecidableEq, Repr

/-- The opposite direction. -/
def Direction.flip : Direction → Direction
  | .aToB => .bToA
  | .bToA => .aToB

@[simp]
theorem Direction.flip_flip (d : Direction) : d.flip.flip = d := by cases d <;> rfl

/-- A pool of two assets. -/
@[ext]
structure Pool where
  /-- The name of the venue. -/
  venue : Text
  /-- The plane that holds the assets. -/
  plane : Text
  reserveA : Nat
  reserveB : Nat
  feeRate : Nat
  convention : FeeConvention
  /-- The settlement asset, as state names it. -/
  denomA : Json
  /-- The other asset, as state names it. -/
  denomB : Json
  granularity : Nat
  reserveA_le : reserveA ≤ maxWord
  reserveB_le : reserveB ≤ maxWord
  feeRate_le : feeRate ≤ feeScale
  granularity_pos : 1 ≤ granularity

/-- What is said of a pool before it is checked. -/
@[ext]
structure Listing where
  venue : Text
  plane : Text
  reserveA : Int
  reserveB : Int
  feeRate : Int
  convention : FeeConvention
  denomA : Json
  denomB : Json
  granularity : Int

/-- The pool of a listing, if its quantities are in range. -/
def Listing.toPool (l : Listing) : Except Rejection Pool :=
  if _ : l.reserveA < 0 ∨ l.reserveB < 0 then
    rejectAt l.venue (.pool (.negativeReserves [l.reserveA] [l.reserveB]))
  else if _ : l.feeRate < 0 ∨ (feeScale : Int) < l.feeRate then
    rejectAt l.venue (.pool (.feeRateOutside l.feeRate feeScale))
  else if _ : l.granularity < 1 then
    rejectAt l.venue (.pool (.granularityTooSmall l.granularity))
  else if _ : (maxWord : Int) < l.reserveA then reject (.pool (.overflow "reserve_a" l.reserveA))
  else if _ : (maxWord : Int) < l.reserveB then reject (.pool (.overflow "reserve_b" l.reserveB))
  else
    .ok {
      venue := l.venue
      plane := l.plane
      reserveA := l.reserveA.toNat
      reserveB := l.reserveB.toNat
      feeRate := l.feeRate.toNat
      convention := l.convention
      denomA := l.denomA
      denomB := l.denomB
      granularity := l.granularity.toNat
      reserveA_le := by omega
      reserveB_le := by omega
      feeRate_le := by omega
      granularity_pos := by omega }

namespace Pool

/-- What is left of an amount, in parts of a million, after the fee. -/
def keptRate (p : Pool) : Nat := feeScale - p.feeRate

/-- The reserve of the asset that goes in. -/
def reserveIn (p : Pool) : Direction → Nat
  | .aToB => p.reserveA
  | .bToA => p.reserveB

/-- The reserve of the asset that comes out. -/
def reserveOut (p : Pool) (d : Direction) : Nat := p.reserveIn d.flip

/-- The asset that comes out. -/
def denomOut (p : Pool) : Direction → Json
  | .aToB => p.denomB
  | .bToA => p.denomA

/-- The pool as a listing with other reserves. -/
def listing (p : Pool) (a b : Int) : Listing :=
  { venue := p.venue
    plane := p.plane
    reserveA := a
    reserveB := b
    feeRate := p.feeRate
    convention := p.convention
    denomA := p.denomA
    denomB := p.denomB
    granularity := p.granularity }

/-- The pool with other reserves, if they are in range. -/
def withReserves (p : Pool) (a b : Int) : Except Rejection Pool := (p.listing a b).toPool

/-- The pool with its assets exchanged; granularity belongs to asset B, so there must be none. -/
def reversed (p : Pool) : Except Rejection Pool :=
  if p.granularity ≠ 1 then rejectAt p.venue (.pool .notReversible)
  else
    .ok { p with
      reserveA := p.reserveB
      reserveB := p.reserveA
      denomA := p.denomB
      denomB := p.denomA
      reserveA_le := p.reserveB_le
      reserveB_le := p.reserveA_le }

/-- Are both reserves positive? -/
def hasReserves (p : Pool) : Bool := p.reserveA ≠ 0 && p.reserveB ≠ 0

/-- Units of asset A for one unit of asset B, times a multiplier. -/
def spotRate (p : Pool) (multiplier : Int) : Except Rejection Int :=
  if p.reserveB = 0 then rejectAt p.venue (.pool .unpriceable)
  else truncatedQuotient (p.reserveA * multiplier) p.reserveB

/-- The multiplier under which rates are compared. -/
def rateMultiplier : Int := 1000000000000000000

theorem withReserves_self (p : Pool) : p.withReserves p.reserveA p.reserveB = .ok p := by
  have ha := p.reserveA_le
  have hb := p.reserveB_le
  have hr := p.feeRate_le
  have hg := p.granularity_pos
  unfold withReserves Listing.toPool
  split
  · simp only [listing] at *
    omega
  split
  · simp only [listing] at *
    omega
  split
  · simp only [listing] at *
    omega
  split
  · simp only [listing] at *
    omega
  split
  · simp only [listing] at *
    omega
  · rfl

theorem reversed_reversed {p q : Pool} (h : p.reversed = .ok q) : q.reversed = .ok p := by
  unfold reversed at h
  split at h
  · cases h
  · rename_i hg
    injection h with h
    subst h
    unfold reversed
    rw [if_neg hg]

end Pool

theorem toPool_reserves {l : Listing} {p : Pool} (h : l.toPool = .ok p) :
    (p.reserveA : Int) = l.reserveA ∧ (p.reserveB : Int) = l.reserveB ∧
      (p.feeRate : Int) = l.feeRate ∧ (p.granularity : Int) = l.granularity := by
  unfold Listing.toPool at h
  split at h
  · cases h
  split at h
  · cases h
  split at h
  · cases h
  split at h
  · cases h
  split at h
  · cases h
  · injection h with h
    subst h
    refine ⟨?_, ?_, ?_, ?_⟩ <;> simp only <;> omega

theorem listing_of_toPool {l : Listing} {p : Pool} (h : l.toPool = .ok p) :
    p.listing p.reserveA p.reserveB = l := by
  obtain ⟨ha, hb, hr, hg⟩ := toPool_reserves h
  unfold Listing.toPool at h
  split at h
  · cases h
  split at h
  · cases h
  split at h
  · cases h
  split at h
  · cases h
  split at h
  · cases h
  · injection h with h
    ext1
    · rw [← h]; rfl
    · rw [← h]; rfl
    · exact ha
    · exact hb
    · exact hr
    · rw [← h]; rfl
    · rw [← h]; rfl
    · rw [← h]; rfl
    · exact hg

end CrossVenue
