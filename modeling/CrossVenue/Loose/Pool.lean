import CrossVenue.Loose.Arithmetic
import CrossVenue.Pool.Basic

/-!
# Loose pools

A loose pool is a pool whose quantities may be numbers of any kind and whose names may be any values.  It
passes the checks of a pool, in the same order; a value that is no number breaks down where it is first
compared.  When all quantities are integers and all names are texts it is just a pool.

* `pool?_ofPool`, `eq_ofPool_of_pool?` : the pools among loose pools.
-/

set_option autoImplicit false

namespace CrossVenue

/-- What is said of a pool in values of any kind. -/
structure Offer where
  venue : Json
  plane : Json
  reserveA : Json
  reserveB : Json
  feeRate : Json
  convention : Json
  denomA : Json
  denomB : Json
  granularity : Json

/-- A pool whose quantities may be numbers of any kind. -/
structure LoosePool where
  venue : Json
  plane : Json
  reserveA : Scalar
  reserveB : Scalar
  feeRate : Scalar
  convention : Json
  denomA : Json
  denomB : Json
  granularity : Scalar

namespace Loose

/-- A venue as it leads messages; what does not count as true leads none. -/
def venueName (venue : Json) : Sentence := if venue.isTrue then venue.inSentence else []

/-- Rejects at a venue that may be any value. -/
def failAtVenue {α : Type} (venue : Json) (cause : Cause) : Attempt α := do
  requireWritable (venueName venue)
  failAt (venueName venue).text cause

end Loose

open Loose

namespace Offer

/-- The reserves, which are not below zero; the second one is looked at when the first one is not. -/
def reserves (o : Offer) : Attempt (Scalar × Scalar) := do
  let negative : Cause := .pool (.negativeReserves o.reserveA.inSentence o.reserveB.inSentence)
  let a ← o.reserveA.scalar
  if a.isBelow 0 then failAtVenue o.venue negative
  else
    let b ← o.reserveB.scalar
    if b.isBelow 0 then failAtVenue o.venue negative else .ok (a, b)

/-- The fee, which is between nothing and everything. -/
def fee (o : Offer) : Attempt Scalar := do
  let rate ← o.feeRate.scalar
  if Scalar.isAtMost 0 rate && rate.isAtMost feeScale then .ok rate
  else failAtVenue o.venue (.pool (.feeRateOutside rate.piece feeScale))

/-- The granularity, which is not below one. -/
def unit (o : Offer) : Attempt Scalar := do
  let granularity ← o.granularity.scalar
  if granularity.isBelow 1 then
    failAtVenue o.venue (.pool (.granularityTooSmall granularity.piece))
  else .ok granularity

/-- The pool of an offer whose quantities are in range. -/
def toPool (o : Offer) : Attempt LoosePool := do
  let (a, b) ← o.reserves
  let rate ← o.fee
  let granularity ← o.unit
  let a ← a.checkWord "reserve_a"
  let b ← b.checkWord "reserve_b"
  .ok {
    venue := o.venue
    plane := o.plane
    reserveA := a
    reserveB := b
    feeRate := rate
    convention := o.convention
    denomA := o.denomA
    denomB := o.denomB
    granularity := granularity }

end Offer

namespace LoosePool

/-- A pool as a loose pool. -/
def ofPool (p : Pool) : LoosePool where
  venue := .str p.venue
  plane := .str p.plane
  reserveA := p.reserveA
  reserveB := p.reserveB
  feeRate := p.feeRate
  convention := .str p.convention.name
  denomA := p.denomA
  denomB := p.denomB
  granularity := p.granularity

/-- The listing that a loose pool is, if its quantities are integers and its names are texts. -/
def listing? (p : LoosePool) : Option Listing :=
  match p with
  | ⟨.str venue, .str plane, .whole a, .whole b, .whole rate, .str convention, denomA, denomB,
      .whole granularity⟩ =>
    some ⟨venue, plane, a, b, rate, .ofName convention, denomA, denomB, granularity⟩
  | _ => none

/-- The pool that a loose pool is, if its quantities are integers and its names are texts. -/
def pool? (p : LoosePool) : Option Pool := p.listing?.bind fun l => l.toPool.toOption

/-- The loose pool with other reserves, if they are in range. -/
def withReserves (p : LoosePool) (a b : Scalar) : Attempt LoosePool :=
  Offer.toPool {
    venue := p.venue
    plane := p.plane
    reserveA := a.toJson
    reserveB := b.toJson
    feeRate := p.feeRate.toJson
    convention := p.convention
    denomA := p.denomA
    denomB := p.denomB
    granularity := p.granularity.toJson }

/-- The loose pool with its assets exchanged, if it is no pool. -/
def exchanged (p : LoosePool) : Attempt LoosePool :=
  if p.granularity.isEqual 1 then
    .ok { p with
      reserveA := p.reserveB
      reserveB := p.reserveA
      denomA := p.denomB
      denomB := p.denomA }
  else failAtVenue p.venue (.pool .notReversible)

/-- The loose pool with its assets exchanged; granularity belongs to asset B, so there must be none. -/
def reversed (p : LoosePool) : Attempt LoosePool :=
  match p.pool? with
  | some q => do .ok (ofPool (← (q.reversed : Except Rejection Pool)))
  | none => p.exchanged

/-- Are both reserves other than zero? -/
def hasReserves (p : LoosePool) : Bool := !p.reserveA.isEqual 0 && !p.reserveB.isEqual 0

/-- Units of asset A for one unit of asset B, times a multiplier, if one of the numbers is no integer. -/
def looseRate (p : LoosePool) (multiplier : Json) : Attempt Scalar :=
  if p.reserveB.isEqual 0 then failAtVenue p.venue (.pool .unpriceable)
  else do
    let scaled ← p.reserveA.toJson.product multiplier
    scaled.truncatedQuotient p.reserveB

/-- Units of asset A for one unit of asset B, times a multiplier. -/
def spotRate (p : LoosePool) (multiplier : Json) : Attempt Scalar :=
  match p.pool?, multiplier with
  | some q, .int n => do
    let rate ← (q.spotRate n : Except Rejection Int)
    .ok rate
  | _, multiplier => p.looseRate multiplier

theorem pool?_ofPool {p : Pool} (h : FeeConvention.ofName p.convention.name = p.convention) :
    (ofPool p).pool? = some p := by
  have hl : (ofPool p).listing? = some (p.listing p.reserveA p.reserveB) := by
    simp only [ofPool, listing?, Pool.listing, h]
  have hs : (p.listing p.reserveA p.reserveB).toPool = .ok p := p.withReserves_self
  simp only [pool?, hl, Option.bind_some, hs, Except.toOption]

theorem eq_ofPool_of_pool? {p : LoosePool} {q : Pool} (h : p.pool? = some q) : p = ofPool q := by
  simp only [pool?, Option.bind_eq_some_iff] at h
  obtain ⟨l, hl, ht⟩ := h
  have hp : l.toPool = .ok q := by
    cases hr : l.toPool with
    | error e => simp [hr, Except.toOption] at ht
    | ok r => simpa [hr, Except.toOption] using ht
  have hq := listing_of_toPool hp
  unfold listing? at hl
  split at hl
  · injection hl with hl
    rw [← hl] at hq
    injection hq with h1 h2 h3 h4 h5 h6 h7 h8 h9
    simp only [ofPool, h1, h2, h3, h4, h5, h6, h7, h8, h9, FeeConvention.name_ofName]
  · cases hl

end LoosePool

end CrossVenue
