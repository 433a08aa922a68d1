import CrossVenue.Proofs.Service.Form
import CrossVenue.Service.Endpoint

/-!
# Requests for arbitrage to the service

A request that passes the schema is answered with a decision or with a rejection, if its texts are plain
and its assets sound.  Otherwise it may break down: assets that are no list, for example, are counted
nevertheless.

* `Service.answered_formPools`, `Service.answered_arbitrage` : what the service computes;
* `Service.respond_foreseen` : the replies to requests for arbitrage.
-/

set_option autoImplicit false

namespace CrossVenue

theorem Strategy.builtin_sound (settings : Settings) : Strategy.Sound ⟨.builtin, settings⟩ where
  coherent := Registry.builtin_coherent
  registry := Registry.builtin_sound
  no_router := rfl

namespace Service

variable {room : Room} {s : Service} {strategy : Strategy} (hloaded : s.strategy = some strategy)
  (hs : strategy.Sound) {bound : Nat} {form : Form.Arbitrage} (hgiven : form.Given bound)
  (hsound : form.Sound)

/-! ## Pools -/

include hgiven hsound

theorem answered_listings : Answered ((form.pools.mapM Listing.toPool : Except Rejection (List Pool)) :
    Attempt (List Pool)) := by
  refine Judged.lift (FailsOnly.mapM fun l hl => ?_)
  obtain ⟨plane, hplane⟩ := hgiven.listings l hl (hsound.venues l hl)
  exact hplane.judged_toPool

theorem presentable_of_listings {pools : List Pool} (h : form.pools.mapM Listing.toPool = .ok pools) :
    ∀ p ∈ pools, ∃ plane, p.Presentable plane := by
  intro p hp
  obtain ⟨l, hl, hlp⟩ := (mem_iff_of_mapM_ok h).1 hp
  obtain ⟨plane, hplane⟩ := hgiven.listings l hl (hsound.venues l hl)
  exact ⟨plane, hplane.presentable hlp⟩

include hloaded hs

theorem answered_formPools (hbound : bound < Number.tooLong) : Answered (s.formPools room form) := by
  unfold formPools
  split
  · exact .of_ok rfl
  · rename_i state hpools hstate
    have hassets := hsound.assets hpools state hstate
    rw [loaded, hloaded]
    refine FailsOnly.bind (.of_ok (a := strategy) rfl) fun _ heq => ?_
    cases heq
    exact Strategy.answered_quotePools hs (hgiven.state state hstate) hassets hbound
  · exact answered_listings hgiven hsound

theorem presentable_of_formPools {pools : List Pool} (h : s.formPools room form = .ok pools) :
    ∀ p ∈ pools, ∃ plane, p.Presentable plane := by
  unfold formPools at h
  split at h
  · cases h
    simp
  · rename_i state hpools hstate
    have hassets := hsound.assets hpools state hstate
    rw [loaded, hloaded] at h
    exact Strategy.presentable_of_quotePools hs (hgiven.state state hstate) hassets h
  · exact presentable_of_listings hgiven hsound (lift_eq_ok_iff.1 h)

/-! ## Replies -/

theorem answered_arbitrage (hbound : bound < Number.tooLong)
    (hleast : Number.isWritable (strategy.minProfit form.request) = true) :
    Answered (s.arbitrage room form) := by
  obtain ⟨⟨pair, amount, who, least⟩, listings, state⟩ := form
  obtain ⟨sender, svm, rfl, hsvm⟩ := hgiven.who
  have hwho : Trader.Sayable ⟨.str sender, Json.ofText? svm⟩ := by
    refine ⟨sender, svm, rfl, fun a ha => ⟨?_, (hsvm a ha).trans_lt hbound⟩⟩
    have haccount := hsound.account
    cases ha
    exact Json.isPlain_str_iff.1 haccount
  unfold arbitrage
  refine (answered_formPools hloaded hs hgiven hsound hbound).bind fun pools hpools => ?_
  have hpresentable := presentable_of_formPools hloaded hs hgiven hsound hpools
  rw [loaded, hloaded]
  refine FailsOnly.bind (.of_ok (a := strategy) rfl) fun _ heq => ?_
  cases heq
  exact (Strategy.answered_arbitrage hs hsound.pair hwho hpresentable hgiven.amount hleast).bind
    fun _ _ => .of_ok rfl

omit hloaded hs hgiven hsound in
/-- A request that passes the schema is answered with what the service computes. -/
theorem respond_of_form {body : Bytes} {v : Json} (hbody : Json.readBytes room body = .ok v)
    (hform : Form.arbitrage v = .accepted form) :
    s.respond room ⟨"POST", "/arbitrage", body⟩ = (s.arbitrage room form).reply.bind Reply.sent := by
  have hne : body.isEmpty = false := by
    cases body with
    | nil =>
      have hempty : Unicode.decode? [] = some ⟨[]⟩ := by decide +kernel
      rw [Json.readBytes, hempty] at hbody
      have hread : Json.readPoints room [] = .ok v := mapError_eq_ok_iff.1 hbody
      simp [Json.readPoints, Json.skipGaps, Json.readValue, Json.flawAt, bind_eq_ok_iff] at hread
    | cons b rest => rfl
  have hpath : Text.ofString "/arbitrage" = Endpoint.path .arbitrage := rfl
  rw [respond_of_path hpath rfl]
  simp only [answer, Body.handle, hne, hbody, Body.handleValue, hform]
  rfl

end Service

/-- A decision, or a rejection under the name of its kind.  It blames the request, unless every bump of an
address was tried in vain. -/
def Reply.IsForeseen (reply : Reply) : Prop :=
  (reply.status = 200 ∧ ∃ decision : Decision, reply.body? = some decision.toJson) ∨
    ∃ reason : Rejection, (reply.status = 400 ∨ ∃ program, reason.cause = .bumpExhausted program) ∧
      reply.body? = some (.obj [("detail", .str reason.message), ("error", .str reason.kindName)])

namespace Service

/-- **What requests that pass the schema are answered.**  Whatever stands in account records, a pool is
quoted from them or they are rejected.  The same holds of the answer to a pool query whose assets are
sound; and a request whose texts are plain as well is always answered, if the least profit that it leaves
to the settings can be written. -/
theorem respond_foreseen (room : Room) (settings : Settings) {body : Bytes} {v : Json}
    {form : Form.Arbitrage} (hbody : Json.readBytes room body = .ok v)
    (hform : Form.arbitrage v = .accepted form) (hshort : body.length < Number.tooLong) :
    (∀ state ∈ form.state, Answered (Raydium.poolOfRecords room .builtin state.raydium) ∧
      (state.SoundAssets → Answered (Astroport.poolOfResponse room .builtin state.astroport))) ∧
    (form.Sound → (form.request.minProfit = none →
        Number.isWritable settings.defaultMinProfit = true) → ∃ reply : Reply,
      Service.respond room ⟨some ⟨.builtin, settings⟩⟩ ⟨"POST", "/arbitrage", body⟩ = .ok reply ∧
        reply.IsForeseen) := by
  have hgiven := Form.arbitrage_given (Json.isSmall_of_readBytes hbody) hform
  constructor
  · intro state hstate
    obtain ⟨fields, hfields, hsmall⟩ := (hgiven.state state hstate).response
    obtain ⟨items, hitems, hsmall', hobjects⟩ := (hgiven.state state hstate).records
    refine ⟨?_, fun hassets => ?_⟩
    · rw [hitems]
      exact Raydium.answered_poolOfRecords Registry.builtin_sound hshort hsmall' hobjects
    · rw [PairState.SoundAssets, hfields] at hassets
      rw [hfields]
      exact Astroport.answered_poolOfResponse Registry.builtin_sound hassets hsmall
  · intro hsound hdefault
    have hleast : Number.isWritable (Strategy.minProfit ⟨.builtin, settings⟩ form.request) = true := by
      cases hrequest : form.request.minProfit with
      | none => simpa [Strategy.minProfit, hrequest] using hdefault hrequest
      | some n => simpa [Strategy.minProfit, hrequest] using hgiven.least n hrequest
    have hanswered : Answered (Service.arbitrage room ⟨some ⟨.builtin, settings⟩⟩ form) :=
      answered_arbitrage rfl (Strategy.builtin_sound settings) hgiven hsound hshort hleast
    rw [respond_of_form hbody hform]
    rcases hanswered.eq_ok_or_rejected with ⟨answer, hanswer⟩ | ⟨reason, hreason, hreportable⟩
    · obtain ⟨pools, -, h⟩ := bind_eq_ok_iff.1 hanswer
      obtain ⟨strategy, -, h⟩ := bind_eq_ok_iff.1 h
      obtain ⟨decision, hdecision, h⟩ := bind_eq_ok_iff.1 h
      cases h
      have hplain := Strategy.isPlain_of_arbitrage hdecision
      refine ⟨.done decision.toJson, ?_, .inl ⟨rfl, decision, rfl⟩⟩
      rw [hanswer]
      exact if_pos hplain
    · refine ⟨.rejected reason, ?_, .inr ⟨reason, ?_, rfl⟩⟩
      · rw [hreason]
        exact if_pos hreportable.isPlain
      · rw [← Rejection.isDomain_eq_false_iff]
        cases hdomain : reason.isDomain with
        | true => exact .inl (if_pos hdomain)
        | false => exact .inr rfl

end Service

/-! ## Requests that give state -/

/-- A request to trade through ether on state in which Astroport lists some assets. -/
def stateRequest (assets : Json) : Json :=
  .obj [("pair", .str "eth-usdt"), ("amount", .int 20000000000), ("sender", .str "lux1trader"),
    ("state", .obj [("astroport_pool", .obj [("assets", assets)]), ("raydium_accounts", .arr [])])]

/-- What the request gives. -/
def stateForm (assets : Json) : Form.Arbitrage :=
  { request := ⟨"eth-usdt", 20000000000, ⟨.str "lux1trader", .null⟩, none⟩
    pools := []
    state := some ⟨.obj [("assets", assets)], .arr [], none⟩ }

theorem arbitrage_stateRequest (assets : Json) :
    Form.arbitrage (stateRequest assets) = .accepted (stateForm assets) := rfl

/-- Native assets are sound, even if halves stand in their texts. -/
theorem soundAsset_nativeAsset (denom amount : Text) :
    Astroport.SoundAsset (nativeAsset denom amount) where
  plain := (Json.shown_sayable _ rfl).isPlain_text
  plain_info := by
    intro info hinfo
    cases hinfo
    exact (Json.shown_sayable _ rfl).isPlain_text
  finite := by
    intro negative h
    cases h
  named := by
    intro info name hinfo hname
    cases hinfo
    cases hname
    rfl

/-- The assets of a pool that trades ether. -/
def etherAssets : Json :=
  .arr [nativeAsset "usdt" "3000000000000", nativeAsset "eth" "1000000000000000000000"]

/-- The room that a request takes whose state lists native assets. -/
def stateRoom : Room := ⟨7, by decide⟩

/-- Requests with readable assets are read back as they were. -/
theorem readBytes_stateRequest {room : Room} {assets : Json} (h : assets.IsReadable (room.levels - 3))
    (hjoined : assets.rejoined = assets) :
    Json.readBytes room (stateRequest assets).encode = .ok (stateRequest assets) := by
  have hamount : Number.isWritable 20000000000 = true := by decide +kernel
  have hroom := room.ample
  have hread : (stateRequest assets).IsReadable room.levels := by
    simp [stateRequest, Json.IsReadable, Json.HaveReadable, Json.AreReadable, Text.ofString_inj,
      hamount, Nat.sub_sub, h]
    omega
  rw [Json.readBytes_encode hread]
  simp [stateRequest, Json.rejoined, Json.rejoinedFields, Json.rejoinedItems, hjoined]

/-- The request for ether is answered. -/
theorem ether_foreseen :
    Json.readBytes stateRoom (stateRequest etherAssets).encode = .ok (stateRequest etherAssets) ∧
    Form.arbitrage (stateRequest etherAssets) = .accepted (stateForm etherAssets) ∧
    (stateRequest etherAssets).encode.length < Number.tooLong ∧ (stateForm etherAssets).Sound ∧
    Number.isWritable etherStrategy.settings.defaultMinProfit = true ∧
    ∃ reply : Reply, Service.respond stateRoom ⟨some etherStrategy⟩
        ⟨"POST", "/arbitrage", (stateRequest etherAssets).encode⟩ = .ok reply ∧
      reply.IsForeseen := by
  have hread : Json.readBytes stateRoom (stateRequest etherAssets).encode =
      .ok (stateRequest etherAssets) := by
    refine readBytes_stateRequest ?_ rfl
    simp [etherAssets, nativeAsset, Json.IsReadable, Json.HaveReadable, Json.AreReadable,
      Text.ofString_inj, stateRoom]
  have hform := arbitrage_stateRequest etherAssets
  have hshort : (stateRequest etherAssets).encode.length < Number.tooLong := by decide +kernel
  have hsound : (stateForm etherAssets).Sound :=
    { pair := rfl
      account := rfl
      venues := by simp [stateForm]
      assets := by
        intro _ state hstate assets hassets
        cases hstate
        cases hassets
        exact ⟨2, rfl, fun _ => ⟨_, _, rfl, soundAsset_nativeAsset _ _,
          soundAsset_nativeAsset _ _⟩⟩ }
  have hdefault : Number.isWritable etherStrategy.settings.defaultMinProfit = true := by
    decide +kernel
  exact ⟨hread, hform, hshort, hsound, hdefault,
    (Service.respond_foreseen stateRoom etherStrategy.settings hread hform hshort).2 hsound
      fun _ => hdefault⟩

/-- **Assets of unforeseen forms break requests down**, however much room there is: null cannot be counted,
an object has no first item, and an infinite amount is no integer. -/
theorem unforeseen_assets_break :
    (∀ room : Room,
      Json.readBytes room (stateRequest .null).encode = .ok (stateRequest .null) ∧
      Form.arbitrage (stateRequest .null) = .accepted (stateForm .null) ∧
      Service.respond room ⟨some etherStrategy⟩
        ⟨"POST", "/arbitrage", (stateRequest .null).encode⟩ = .error (.broken .wrongKind)) ∧
    ∀ room : Room,
      Astroport.poolOfResponse room .builtin (.obj [("assets", .obj [("a", .null), ("b", .null)])]) =
        .error (.broken .missingKey) ∧
      Astroport.poolOfResponse room .builtin (.obj [("assets", .arr [
        .obj [("info", .obj [("token", .obj [("contract_addr", .str "eth")])]),
          ("amount", .float (.infinite false))], .null])]) = .error (.broken .notFinite) := by
  refine ⟨fun room => ?_, fun room => ⟨rfl, rfl⟩⟩
  have hread : Json.readBytes room (stateRequest .null).encode = .ok (stateRequest .null) :=
    readBytes_stateRequest trivial rfl
  refine ⟨hread, rfl, ?_⟩
  have hs : etherStrategy.Sound := Strategy.builtin_sound etherStrategy.settings
  rw [Service.respond_of_form hread (arbitrage_stateRequest _)]
  have hquote : etherStrategy.quotePools room (some "eth-usdt")
      ⟨.obj [("assets", .null)], .arr [], none⟩ = .error (.broken .wrongKind) := by
    rw [Strategy.quotePools, Strategy.queriedPools_eq hs]
    rfl
  have hpools : Service.formPools room ⟨some etherStrategy⟩ (stateForm .null) =
      .error (.broken .wrongKind) := hquote
  rw [Service.arbitrage, hpools]
  rfl

end CrossVenue
