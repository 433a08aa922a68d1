import CrossVenue.Proofs.Arbitrage.Judged
import CrossVenue.Proofs.Arbitrage.Swaps
import CrossVenue.Proofs.Encoding.Words
import CrossVenue.Proofs.Json.Parts
import CrossVenue.Proofs.Registry.Sound
import CrossVenue.Proofs.Venue.Orientation

/-!
# State that is quoted or rejected

A pool is quoted from state of any form, or the state is rejected for a reason that can be reported.
Account records have no form that is not foreseen.  In the answer to a pool query there are three: assets
that cannot be counted or are no list, an amount that is infinite, and a list or an object where an asset
is named; and a text with halves that stands for an asset keeps its rejection from being reported.

* `Pool.Presentable` : what a quoted pool needs so that a round trip through it can be told;
* `Astroport.SoundAssets` : assets of a form that is foreseen;
* `Astroport.answered_poolOfResponse`, `Raydium.answered_poolOfRecords` : state is quoted or rejected;
* `Astroport.presentable_of_response`, `Raydium.presentable_of_records` : what is quoted is presentable.
-/

set_option autoImplicit false

namespace CrossVenue

/-- Is a value neither a list nor an object? -/
def Json.isAtom : Json → Bool
  | .arr _ => false
  | .obj _ => false
  | _ => true

/-- Can a value name an asset on a plane?  On the EVM and SVM planes only texts can. -/
def Plane.Names (plane : Plane) (v : Json) : Prop :=
  (∃ s, v = .str s) ∨ plane = .cosmos ∧ v.isAtom = true ∧ v.isWritable = true

/-- A pool on a plane whose parts can be told to other planes. -/
structure Pool.Presentable (plane : Plane) (p : Pool) : Prop where
  nameable : p.Nameable
  plane_eq : p.plane = plane.name
  namesA : plane.Names p.denomA
  namesB : plane.Names p.denomB

/-! ## Listings -/

/-- A listing whose quantities can stand in a message, and which makes a presentable pool. -/
structure Listing.Sayable (plane : Plane) (l : Listing) : Prop where
  venue : l.venue.isPlain = true
  convention : l.convention.name.isPlain = true
  reserveA : Number.isWritable l.reserveA = true
  reserveB : Number.isWritable l.reserveB = true
  feeRate : Number.isWritable l.feeRate = true
  granularity : Number.isWritable l.granularity = true
  plane_eq : l.plane = plane.name
  namesA : plane.Names l.denomA
  namesB : plane.Names l.denomB

namespace Listing.Sayable

variable {plane : Plane} {l : Listing} (h : l.Sayable plane)

include h

theorem judged_toPool : Judged l.toPool := by
  have hscale : Number.isWritable feeScale = true := Number.isWritable_of_le (by decide)
  unfold Listing.toPool
  split
  · exact judged_rejectAt h.venue (by simp [PoolFault.sentence, h.reserveA, h.reserveB])
  split
  · exact judged_rejectAt h.venue (by simp [PoolFault.sentence, h.feeRate, hscale])
  split
  · exact judged_rejectAt h.venue (by simp [PoolFault.sentence, h.granularity])
  split
  · exact judged_reject (by simp [PoolFault.sentence, h.reserveA])
  split
  · exact judged_reject (by simp [PoolFault.sentence, h.reserveB])
  · exact .of_ok rfl

theorem presentable {p : Pool} (hp : l.toPool = .ok p) : p.Presentable plane := by
  have heq := listing_of_toPool hp
  have hconvention : p.convention = l.convention := congrArg Listing.convention heq
  obtain ⟨hvenue, hplane, hA, hB⟩ := toPool_names hp
  exact
    { nameable := ⟨by rw [hvenue, h.venue], by rw [hconvention, h.convention]⟩
      plane_eq := hplane.trans h.plane_eq
      namesA := by
        rw [hA]
        exact h.namesA
      namesB := by
        rw [hB]
        exact h.namesB }

end Listing.Sayable

/-! ## Answers to pool queries -/

namespace Astroport

/-- An asset that is read, or rejected with what can be told.  Only texts by themselves are told as they
are; inside of lists and objects they are quoted. -/
structure SoundAsset (asset : Json) : Prop where
  plain : asset.inSentence.text.isPlain = true
  plain_info : ∀ info, asset.field? "info" = some info → info.inSentence.text.isPlain = true
  finite : ∀ negative, asset.field? "amount" ≠ some (.float (.infinite negative))
  named : ∀ info denom, asset.field? "info" = some info → assetDenom info = .ok denom →
    denom.isAtom = true

/-- Fewer than two assets, or two that are sound. -/
def SoundAssets (assets : Json) : Prop :=
  ∃ n, size assets = .ok n ∧
    (2 ≤ n → ∃ p q, firstTwo assets = .ok (p, q) ∧ SoundAsset p ∧ SoundAsset q)

/-- Can a fault of an asset be told, apart from the asset itself? -/
def AssetFault.Told : AssetFault → Prop
  | malformed => True
  | unknownInfo info => info.inSentence.Sayable
  | infinite => False

theorem AssetFault.Told.reportable {fault : AssetFault} (h : fault.Told) {asset : Json}
    (ha : asset.inSentence.Sayable) : (fault.failure asset).Reportable := by
  cases fault with
  | malformed =>
    refine Rejection.Reportable.failure (Cause.Sayable.reportable ?_ rfl)
    simp [Cause.Sayable, Cause.sentence, StateFault.sentence, Cause.omitted, ha]
  | unknownInfo info =>
    have hinfo : info.inSentence.Sayable := h
    refine Rejection.Reportable.failure (Cause.Sayable.reportable ?_ rfl)
    simp [Cause.Sayable, Cause.sentence, StateFault.sentence, Cause.omitted, hinfo]
  | infinite => exact h.elim

theorem failsOnly_part (v : Json) (name : Text) : FailsOnly (· = AssetFault.malformed) (part v name) := by
  unfold part
  split
  · exact .of_ok rfl
  · exact .of_error rfl

theorem failsOnly_holds (v : Json) (name : Text) : FailsOnly (· = AssetFault.malformed) (holds v name) := by
  unfold holds
  split
  · exact .of_ok rfl
  · exact .of_ok rfl
  · exact .of_ok rfl
  · exact .of_error rfl

/-- A description is at fault in its form or in itself. -/
theorem failsOnly_assetDenom (info : Json) :
    FailsOnly (fun fault => fault = .malformed ∨ fault = .unknownInfo info) (assetDenom info) := by
  have hpart : ∀ v name, FailsOnly (fun fault => fault = .malformed ∨ fault = .unknownInfo info)
      (part v name) := fun v name => (failsOnly_part v name).mono fun _ => .inl
  have hholds : ∀ name, FailsOnly (fun fault => fault = .malformed ∨ fault = .unknownInfo info)
      (holds info name) := fun name => (failsOnly_holds info name).mono fun _ => .inl
  unfold assetDenom
  refine (hholds _).bind fun _ _ => ?_
  split
  · exact (hpart info _).bind fun v _ => hpart v _
  refine (hholds _).bind fun _ _ => ?_
  split
  · exact (hpart info _).bind fun v _ => hpart v _
  · exact .of_error (.inr rfl)

theorem failsOnly_assetAmount {v : Json} (h : ∀ negative, v ≠ .float (.infinite negative)) :
    FailsOnly AssetFault.Told (assetAmount v) := by
  unfold assetAmount
  split
  · exact .of_ok rfl
  · exact .of_ok rfl
  · split
    · exact .of_ok rfl
    · exact .of_error trivial
  · exact absurd rfl (h _)
  · split
    · exact .of_ok rfl
    · exact .of_error trivial
  · exact .of_error trivial

theorem isWritable_of_assetAmount {bound : Nat} {v : Json} (hv : v.isSmall bound = true) {n : Int}
    (h : assetAmount v = .ok n) : Number.isWritable n = true := by
  unfold assetAmount at h
  split at h
  · cases h
    exact Json.isSmall_int_iff.1 hv
  · cases h
    split <;> decide +kernel
  · split at h
    · rename_i hread
      cases h
      exact Text.isWritable_of_readInteger? hread
    · cases h
  · cases h
  · split at h
    · rename_i hwhole
      cases h
      have hshort := Json.isSmall_float_iff.1 hv
      rwa [Binary64.isShort, hwhole, Option.all_some] at hshort
    · cases h
  · cases h

/-! ### Assets -/

section

variable {asset : Json}

theorem part_eq_ok_iff {v w : Json} {name : Text} :
    part v name = .ok w ↔ v.field? name = some w := by
  unfold part
  cases v.field? name <;> simp

theorem assetParts_eq_ok_iff {denom : Json} {amount : Int} :
    assetParts asset = .ok (denom, amount) ↔
      ∃ info v, asset.field? "info" = some info ∧ assetDenom info = .ok denom ∧
        asset.field? "amount" = some v ∧ assetAmount v = .ok amount := by
  simp only [assetParts, bind_eq_ok_iff, part_eq_ok_iff, Except.ok.injEq, Prod.mk.injEq]
  constructor
  · rintro ⟨info, hinfo, _, hdenom, v, hv, _, hamount, rfl, rfl⟩
    exact ⟨info, v, hinfo, hdenom, hv, hamount⟩
  · rintro ⟨info, v, hinfo, hdenom, hv, hamount⟩
    exact ⟨info, hinfo, denom, hdenom, v, hv, amount, hamount, rfl, rfl⟩

/-- What is shown of a small value can be said if it is plain. -/
theorem sayable_inSentence {bound : Nat} {v : Json} (hsmall : v.isSmall bound = true)
    (hplain : v.inSentence.text.isPlain = true) : v.inSentence.Sayable :=
  Sentence.sayable_of_isPlain_text
    (Json.inSentence_isWritable (Json.isWritable_of_isSmall hsmall)) hplain

theorem failsOnly_assetParts (h : SoundAsset asset) {bound : Nat}
    (hsmall : asset.isSmall bound = true) : FailsOnly AssetFault.Told (assetParts asset) := by
  unfold assetParts
  have hpart : ∀ name, FailsOnly AssetFault.Told (part asset name) := by
    refine fun name => (failsOnly_part asset name).mono ?_
    rintro _ rfl
    exact trivial
  have hdenom : ∀ info, asset.field? "info" = some info → FailsOnly AssetFault.Told (assetDenom info) := by
    refine fun info hinfo => (failsOnly_assetDenom info).mono ?_
    rintro _ (rfl | rfl)
    · exact trivial
    · exact sayable_inSentence (Json.every_of_field? hsmall hinfo) (h.plain_info info hinfo)
  refine (hpart _).bind fun info hinfo => (hdenom info (part_eq_ok_iff.1 hinfo)).bind fun _ _ => ?_
  refine (hpart _).bind fun v hv => ?_
  have hfinite : ∀ negative, v ≠ .float (.infinite negative) := by
    rintro negative rfl
    exact h.finite negative (part_eq_ok_iff.1 hv)
  exact (failsOnly_assetAmount hfinite).bind fun _ _ => .of_ok rfl

theorem answered_parseAsset (h : SoundAsset asset) {bound : Nat}
    (hsmall : asset.isSmall bound = true) : Answered (parseAsset asset) := by
  unfold parseAsset
  have htold := sayable_inSentence hsmall h.plain
  refine ((failsOnly_assetParts h hsmall).mapError fun _ hf => hf.reportable htold).bind ?_
  rintro ⟨denom, amount⟩ hparts
  obtain ⟨-, v, -, -, hv, hamount⟩ := assetParts_eq_ok_iff.1 (mapError_eq_ok_iff.1 hparts)
  have hwritable := isWritable_of_assetAmount (Json.every_of_field? hsmall hv) hamount
  simp only
  split
  · refine answered_failAt rfl ?_
    simp [Cause.Sayable, Cause.sentence, StateFault.sentence, Cause.omitted, hwritable]
  · exact .of_ok rfl

/-- What names an asset is a part of its description. -/
theorem isSmall_of_assetDenom {bound : Nat} {info denom : Json} (hsmall : info.isSmall bound = true)
    (h : assetDenom info = .ok denom) : denom.isSmall bound = true := by
  have hpart : ∀ {name inner}, (part info name >>= fun v => part v inner) = .ok denom →
      denom.isSmall bound = true := by
    intro name inner h
    simp only [bind_eq_ok_iff, part_eq_ok_iff] at h
    obtain ⟨v, hv, hdenom⟩ := h
    exact Json.every_of_field? (Json.every_of_field? hsmall hv) hdenom
  unfold assetDenom at h
  obtain ⟨_, -, h⟩ := bind_eq_ok_iff.1 h
  split at h
  · exact hpart h
  obtain ⟨_, -, h⟩ := bind_eq_ok_iff.1 h
  split at h
  · exact hpart h
  · cases h

/-- What names a sound asset names it on the COSMOS plane. -/
theorem SoundAsset.names (h : SoundAsset asset) {bound : Nat} (hsmall : asset.isSmall bound = true)
    {p : Json × Nat} (hp : parseAsset asset = .ok p) : Plane.cosmos.Names p.1 := by
  simp only [parseAsset, bind_eq_ok_iff, mapError_eq_ok_iff] at hp
  obtain ⟨⟨denom, amount⟩, hparts, hp⟩ := hp
  obtain ⟨info, -, hinfo, hdenom, -, -⟩ := assetParts_eq_ok_iff.1 hparts
  simp only at hp
  split at hp
  · cases hp
  · cases hp
    have hdenom' := isSmall_of_assetDenom (Json.every_of_field? hsmall hinfo) hdenom
    exact .inr ⟨rfl, h.named info denom hinfo hdenom, Json.isWritable_of_isSmall hdenom'⟩

end

/-! ### Lists of assets -/

section

variable {assets p q : Json}

theorem isSmall_of_firstTwo {bound : Nat} (h : assets.isSmall bound = true)
    (hpq : firstTwo assets = .ok (p, q)) : p.isSmall bound = true ∧ q.isSmall bound = true := by
  unfold firstTwo at hpq
  split at hpq
  · cases hpq
    have hitems := (Json.isSmall_arr_iff.1 h).2
    exact ⟨hitems _ (by simp), hitems _ (by simp)⟩
  · cases hpq
    have hlength := Json.isSmall_str_iff.1 h
    simp only [Text.length, List.length_cons] at hlength
    exact ⟨Json.isSmall_str_iff.2 (by simp only [Text.length, List.length_singleton]; omega),
      Json.isSmall_str_iff.2 (by simp only [Text.length, List.length_singleton]; omega)⟩
  · cases hpq
  · cases hpq

end

variable {r : Registry}

theorem listingOf_sayable (hr : r.Sound) {a b : Json × Nat} (ha : Plane.cosmos.Names a.1)
    (hb : Plane.cosmos.Names b.1) (ha' : a.2 ≤ maxWord128) (hb' : b.2 ≤ maxWord128) :
    (listingOf r a b).Sayable .cosmos where
  venue := hr.astroport_name
  convention := rfl
  reserveA := Number.isWritable_of_le_maxWord (ha'.trans (by decide))
  reserveB := Number.isWritable_of_le_maxWord (hb'.trans (by decide))
  feeRate := Number.isWritable_of_le_maxWord (r.astroport.feeRate.property.trans (by decide))
  granularity := Number.isWritable_of_natAbs_le (n := 1) (by decide)
  plane_eq := rfl
  namesA := ha
  namesB := hb

section

variable (hr : r.Sound) {assets : Json} (h : SoundAssets assets) {bound : Nat}
  (hsmall : assets.isSmall bound = true)

include hr h hsmall

theorem presentable_of_assets {pool : Pool} (hpool : poolOfAssets r assets = .ok pool) :
    pool.Presentable .cosmos := by
  obtain ⟨n, hn, htwo⟩ := h
  obtain ⟨a, b, ⟨m, first, second, hm, hlt, hfirst, ha, hb⟩, hpair⟩ :=
    poolOfAssets_eq_ok_iff.1 hpool
  cases hn.symm.trans hm
  obtain ⟨p, q, hpq, hp, hq⟩ := htwo (by omega)
  cases hpq.symm.trans hfirst
  obtain ⟨hp', hq'⟩ := isSmall_of_firstTwo hsmall hpq
  have ha' := hp.names hp' ha
  have hb' := hq.names hq' hb
  rw [poolOfPair_eq] at hpair
  have hab := listingOf_sayable hr ha' hb' (parseAsset_le ha) (parseAsset_le hb)
  have hba := listingOf_sayable hr hb' ha' (parseAsset_le hb) (parseAsset_le ha)
  split at hpair
  · exact hab.presentable hpair
  · exact hba.presentable hpair

theorem answered_poolOfAssets : Answered (poolOfAssets r assets) := by
  obtain ⟨n, hn, htwo⟩ := h
  unfold poolOfAssets
  rw [hn]
  refine FailsOnly.bind (.of_ok rfl) fun m hm => ?_
  cases hm
  split
  · rename_i hfew
    have hcount : n ≤ maxWord := Nat.le_trans (Nat.le_of_lt hfew) (by decide)
    refine answered_failAt hr.astroport_name ?_
    simp [Cause.Sayable, Cause.sentence, StateFault.sentence, Cause.omitted,
      Number.isWritable_of_le_maxWord hcount]
  · obtain ⟨p, q, hpq, hp, hq⟩ := htwo (by omega)
    obtain ⟨hp', hq'⟩ := isSmall_of_firstTwo hsmall hpq
    rw [hpq]
    refine FailsOnly.bind (.of_ok rfl) fun _ heq => ?_
    cases heq
    refine (answered_parseAsset hp hp').bind fun a ha => ?_
    refine (answered_parseAsset hq hq').bind fun b hb => ?_
    have ha' := hp.names hp' ha
    have hb' := hq.names hq' hb
    have hab := listingOf_sayable hr ha' hb' (parseAsset_le ha) (parseAsset_le hb)
    have hba := listingOf_sayable hr hb' ha' (parseAsset_le hb) (parseAsset_le ha)
    refine Judged.lift ?_
    rw [poolOfPair_eq]
    split
    · exact hab.judged_toPool
    · exact hba.judged_toPool

end

/-! ### Answers -/

section

variable (hr : r.Sound) {room : Room} {fields : Json.Fields}
  (h : ∀ assets, Json.field? (.obj fields) "assets" = some assets → SoundAssets assets) {bound : Nat}
  (hsmall : (Json.obj fields).isSmall bound = true)

include hr h hsmall

/-- **An answer to a pool query is quoted or rejected**, if its assets are sound. -/
theorem answered_poolOfResponse : Answered (poolOfResponse room r (.obj fields)) := by
  unfold poolOfResponse
  refine FailsOnly.bind (.of_ok (a := .obj fields) rfl) fun v hv => ?_
  cases hv
  split
  · rename_i assets hassets
    exact answered_poolOfAssets hr (h assets hassets) (Json.every_of_lookup hsmall hassets)
  · refine answered_failAt hr.astroport_name ?_
    simp [Cause.Sayable, Cause.sentence, StateFault.sentence, Cause.omitted]

theorem presentable_of_response {pool : Pool} (hpool : poolOfResponse room r (.obj fields) = .ok pool) :
    pool.Presentable .cosmos := by
  obtain ⟨v, hv, hpool⟩ := bind_eq_ok_iff.1 hpool
  cases hv
  split at hpool
  · rename_i assets hassets
    exact presentable_of_assets hr (h assets hassets) (Json.every_of_lookup hsmall hassets) hpool
  · cases hpool

end

end Astroport

/-! ## Account records -/

/-- A counter of eight bytes. -/
theorem Bytes.littleEndian_slice_le (bs : Bytes) (offset : Nat) :
    littleEndian (slice bs offset 8) ≤ maxWord64 := by
  have hlength : (slice bs offset 8).length ≤ 8 := List.length_take_le _ _
  have hlt := littleEndian_lt (slice bs offset 8)
  have hpow := Nat.pow_le_pow_right (show 0 < 256 by decide) hlength
  exact Nat.le_of_lt_succ (Nat.lt_of_lt_of_le hlt hpow)

namespace Raydium

variable {r : Registry} {room : Room}

theorem answered_ofJson (fields : Json.Fields) : Answered (AccountRecord.ofJson room (.obj fields)) := by
  show Answered (AccountRecord.ofObject _)
  unfold AccountRecord.ofObject
  split
  · exact .of_ok rfl
  · refine answered_failWith ?_
    simp [Cause.Sayable, Cause.sentence, StateFault.sentence, Cause.omitted]

/-- The data of a record are no longer than the text that spells them. -/
theorem data_length_le {bound : Nat} {fields : Json.Fields}
    (hsmall : (Json.obj fields).isSmall bound = true) {record : AccountRecord}
    (h : AccountRecord.ofJson room (.obj fields) = .ok record) : record.data.length ≤ bound := by
  have hreader : AccountRecord.reader (.obj fields) = .accepted record := by
    change AccountRecord.ofObject _ = _ at h
    unfold AccountRecord.ofObject at h
    split at h
    · rename_i hr
      cases h
      exact hr
    · cases h
  simp only [AccountRecord.reader, Schema.object, Checked.andThen, Checked.and_eq_accepted_iff,
    Schema.required_eq_accepted_iff] at hreader
  obtain ⟨_, _, ⟨_, _, ⟨_, data, ⟨_, _, ⟨_, _, ⟨_, _, h0, -, rfl⟩, -, rfl⟩, -, rfl⟩,
    ⟨v, hv, hdata⟩, rfl⟩, -, rfl⟩, -, rfl⟩ := hreader
  cases h0
  have hv' := Json.every_of_lookup hsmall hv
  unfold Schema.bytes at hdata
  split at hdata
  · split at hdata
    · rename_i hdecode
      cases hdata
      exact (Base64.decode?_length hdecode).trans (Json.isSmall_str_iff.1 hv')
    · cases hdata
  · cases hdata

theorem judged_tokenAccount (data : Bytes) : Judged (TokenAccount.ofBytes data) := by
  unfold TokenAccount.ofBytes
  split
  · rename_i hfew
    have hleast : TokenAccount.minSize ≤ maxWord := by decide
    refine judged_reject ?_
    simp [Cause.Sayable, Cause.sentence, StateFault.sentence, Cause.omitted,
      Number.isWritable_of_le_maxWord hleast,
      Number.isWritable_of_le_maxWord ((Nat.le_of_lt hfew).trans hleast)]
  · exact .of_ok rfl

theorem judged_feeCounters {data : Bytes} (h : data.length < Number.tooLong) :
    Judged (FeeCounters.ofBytes data) := by
  unfold FeeCounters.ofBytes
  split
  · have hsize : FeeCounters.stateSize ≤ maxWord := by decide
    refine judged_reject ?_
    simp [Cause.Sayable, Cause.sentence, StateFault.sentence, Cause.omitted,
      Number.isWritable_of_le_maxWord hsize, Number.isWritable_natCast h]
  · exact .of_ok rfl

/-! ### Sides -/

/-- What bounds a reserve from both sides: a balance of eight bytes, less two counters of as many. -/
def reserveBound : Nat := 2 * maxWord64

/-- A side whose mint is written and whose reserve is bounded. -/
structure SmallSide (a : Side) : Prop where
  plain : a.mint.isPlain = true
  reserve : a.reserve.natAbs ≤ reserveBound

theorem smallSides {token0 token1 : TokenAccount} {fees : FeeCounters} {vault0 vault1 state : Bytes}
    (h0 : TokenAccount.ofBytes vault0 = .ok token0) (h1 : TokenAccount.ofBytes vault1 = .ok token1)
    (hf : FeeCounters.ofBytes state = .ok fees) :
    SmallSide (sides token0 token1 fees).1 ∧ SmallSide (sides token0 token1 fees).2 := by
  have ha : ∀ {vault token}, TokenAccount.ofBytes vault = .ok token → token.amount ≤ maxWord64 := by
    intro vault token h
    unfold TokenAccount.ofBytes at h
    split at h
    · cases h
    · cases h
      exact Bytes.littleEndian_slice_le _ _
  have hfees : fees.total0 ≤ 2 * maxWord64 ∧ fees.total1 ≤ 2 * maxWord64 := by
    unfold FeeCounters.ofBytes at hf
    split at hf
    · cases hf
    · cases hf
      have hc := Bytes.littleEndian_slice_le state
      simp only [FeeCounters.total0, FeeCounters.total1]
      have h1 := hc FeeCounters.offset
      have h2 := hc (FeeCounters.offset + 8)
      have h3 := hc (FeeCounters.offset + 16)
      have h4 := hc (FeeCounters.offset + 24)
      omega
  have ha0 := ha h0
  have ha1 := ha h1
  unfold sides
  refine ⟨⟨Text.isPlain_ofString _, ?_⟩, ⟨Text.isPlain_ofString _, ?_⟩⟩
  · simp only [reserveBound]
    omega
  · simp only [reserveBound]
    omega

section

variable (hr : r.Sound) {a b : Side} (ha : SmallSide a) (hb : SmallSide b)

include hr ha hb

/-- The listing of two sides. -/
theorem sayable_of_sides : Listing.Sayable .svm
    { venue := r.raydium.name
      plane := Plane.svm.name
      reserveA := a.reserve
      reserveB := b.reserve * r.decimalFactor b.mint
      feeRate := r.raydium.feeRate.val
      convention := .preFee
      denomA := .str a.mint
      denomB := .str b.mint
      granularity := r.decimalFactor b.mint } where
  venue := hr.raydium_name
  convention := rfl
  reserveA := Number.isWritable_of_natAbs_le (ha.reserve.trans (by decide))
  reserveB := by
    refine Number.isWritable_of_natAbs_le ?_
    rw [Int.natAbs_mul, Int.natAbs_natCast]
    exact (Nat.mul_le_mul hb.reserve (hr.decimalFactor_le _)).trans (by decide)
  feeRate := Number.isWritable_of_le_maxWord (r.raydium.feeRate.property.trans (by decide))
  granularity := Number.isWritable_of_le_maxWord (hr.decimalFactor_le _)
  plane_eq := rfl
  namesA := .inl ⟨_, rfl⟩
  namesB := .inl ⟨_, rfl⟩

theorem judged_poolOfSides : Judged (poolOfSides r a b) := by
  have hA := Number.isWritable_of_natAbs_le (ha.reserve.trans (by decide))
  have hB := Number.isWritable_of_natAbs_le (hb.reserve.trans (by decide))
  unfold poolOfSides
  split
  · refine judged_rejectAt hr.raydium_name ?_
    simp [Cause.Sayable, Cause.sentence, StateFault.sentence, Cause.omitted, hA, hB]
  · exact (sayable_of_sides hr ha hb).judged_toPool

theorem answered_parsePool : Answered (parsePool r a b) := by
  refine (judged_poolOfSides hr ha hb).lift.bind fun pool hpool => ?_
  have hsteps := Number.isWritable_of_le_maxWord (hr.decimalFactor_le b.mint)
  have hline := (isWritable_parsedLine (lift_eq_ok_iff.1 hpool)).trans hsteps
  exact (answered_requireWritable hline).bind fun _ _ => .of_ok rfl

theorem presentable_of_sides {pool : Pool} (h : parsePool r a b = .ok pool) :
    pool.Presentable .svm := by
  have hpool := (parsePool_eq_ok_iff.1 h).1
  unfold poolOfSides at hpool
  split at hpool
  · cases hpool
  · exact (sayable_of_sides hr ha hb).presentable hpool

end

/-! ### Records -/

section

variable (hr : r.Sound) {vault0 vault1 state : Bytes}

include hr

theorem answered_poolOfAccounts (hstate : state.length < Number.tooLong) :
    Answered (poolOfAccounts r vault0 vault1 state) := by
  have hsides : Judged (sidesOfAccounts vault0 vault1 state) :=
    (judged_tokenAccount vault0).bind fun _ _ => (judged_tokenAccount vault1).bind fun _ _ =>
      (judged_feeCounters hstate).bind fun _ _ => .of_ok rfl
  refine hsides.lift.bind ?_
  rintro ⟨a, b⟩ hab
  obtain ⟨token0, token1, fees, h0, h1, hf, hs⟩ := sidesOfAccounts_eq_ok_iff.1 (lift_eq_ok_iff.1 hab)
  have hsmall := smallSides h0 h1 hf
  rw [hs] at hsmall
  simp only
  split
  · exact answered_parsePool hr hsmall.1 hsmall.2
  · exact answered_parsePool hr hsmall.2 hsmall.1

theorem presentable_of_accounts {pool : Pool}
    (h : poolOfAccounts r vault0 vault1 state = .ok pool) : pool.Presentable .svm := by
  obtain ⟨a, b, ⟨token0, token1, fees, h0, h1, hf, hs⟩, h⟩ := poolOfAccounts_eq_ok_iff.1 h
  have hsmall := smallSides h0 h1 hf
  rw [hs] at hsmall
  split at h
  · exact presentable_of_sides hr hsmall.1 hsmall.2 h
  · exact presentable_of_sides hr hsmall.2 hsmall.1 h

theorem presentable_of_records {records : Json} {pool : Pool}
    (h : poolOfRecords room r records = .ok pool) : pool.Presentable .svm := by
  simp only [poolOfRecords, bind_eq_ok_iff] at h
  obtain ⟨_, _, _, _, _, _, _, _, h⟩ := h
  exact presentable_of_accounts hr h

/-- **Account records are quoted or rejected**, whatever stands in them. -/
theorem answered_poolOfRecords {bound : Nat} (hbound : bound < Number.tooLong) {items : List Json}
    (hsmall : (Json.arr items).isSmall bound = true)
    (hitems : ∀ v ∈ items, ∃ fields, v = .obj fields) :
    Answered (poolOfRecords room r (.arr items)) := by
  unfold poolOfRecords threeRecords
  split
  · rename_i v0 v1 s rest heq
    cases heq
    simp only [List.forall_mem_cons] at hitems
    obtain ⟨⟨f0, rfl⟩, ⟨f1, rfl⟩, ⟨fs, rfl⟩, -⟩ := hitems
    have hs : (Json.obj fs).isSmall bound = true := (Json.isSmall_arr_iff.1 hsmall).2 _ (by simp)
    refine FailsOnly.bind (.of_ok rfl) fun _ heq => ?_
    cases heq
    refine (answered_ofJson f0).bind fun _ _ => ?_
    refine (answered_ofJson f1).bind fun _ _ => ?_
    refine (answered_ofJson fs).bind fun record hrecord => ?_
    exact answered_poolOfAccounts hr ((data_length_le hs hrecord).trans_lt hbound)
  · rename_i few hne heq
    cases heq
    refine FailsOnly.bind (answered_failAt hr.raydium_name ?_) fun _ h => by cases h
    have hlength := (Json.isSmall_arr_iff.1 hsmall).1.trans_lt hbound
    simp [Cause.Sayable, Cause.sentence, StateFault.sentence, Cause.omitted,
      Number.isWritable_natCast hlength]
  · rename_i h
    cases h
  · rename_i h
    cases h
  · rename_i h _ _
    exact absurd rfl (h _)

end

end Raydium

end CrossVenue
