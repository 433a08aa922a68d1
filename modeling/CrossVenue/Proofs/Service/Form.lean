import CrossVenue.Proofs.Strategy.Answered
import CrossVenue.Service.Form

/-!
# What a request for arbitrage gives

A request that is read from a short body has no integer that cannot be written and no text that is too
long, its listings are on known planes, and its state has the form of queries.  All that is left open is
whether its texts are plain and its assets sound.

* `Schema.defaulted_eq_accepted_iff`, `exists_items_of_listOf` : what readers of fields and lists accept;
* `Form.listing_sayable`, `Form.pairState_given` : listings and state;
* `Form.Arbitrage.Given` : what is known of a request that is read;
* `Form.arbitrage_given` : that it is known.
-/

set_option autoImplicit false

namespace CrossVenue

/-! ## What readers accept -/

namespace Schema

variable {α : Type} {r : Reader α} {fields : Json.Fields} {name : Text} {v : Json}

theorem defaulted_eq_accepted_iff {value a : α} :
    defaulted fields name value r = .accepted a ↔
      (fields.lookup name = none ∧ a = value) ∨
        ∃ v, fields.lookup name = some v ∧ r v = .accepted a := by
  unfold defaulted
  cases fields.lookup name with
  | none => simp [eq_comm]
  | some v => simp [Checked.under_eq_accepted_iff]

theorem of_nullable {o : Option α} (h : nullable r v = .accepted o) : ∀ a ∈ o, r v = .accepted a := by
  intro a ha
  unfold nullable at h
  split at h
  · cases h
    cases ha
  · obtain ⟨b, hb, rfl⟩ := Checked.map_eq_accepted_iff.1 h
    cases ha
    exact hb

/-- A field that may be null or absent. -/
theorem exists_of_defaulted_nullable {o : Option α}
    (h : defaulted fields name none (nullable r) = .accepted o) :
    ∀ a ∈ o, ∃ v, fields.lookup name = some v ∧ r v = .accepted a := by
  intro a ha
  rcases defaulted_eq_accepted_iff.1 h with ⟨-, rfl⟩ | ⟨v, hv, hr⟩
  · cases ha
  · exact ⟨v, hv, of_nullable hr a ha⟩

theorem exists_items_of_listOf {as : List α} (h : listOf r v = .accepted as) :
    ∃ items, v = .arr items ∧ as.length = items.length ∧
      ∀ a ∈ as, ∃ w ∈ items, r w = .accepted a := by
  obtain ⟨items, rfl, heq⟩ := listOf_eq_accepted_iff.1 h
  refine ⟨items, rfl, ?_, fun a ha => ?_⟩
  · have hlength := congrArg List.length heq
    simpa using hlength.symm
  · have hmem : Checked.accepted a ∈ as.map Checked.accepted := List.mem_map_of_mem ha
    rw [← heq, List.mem_mapIdx] at hmem
    obtain ⟨i, hi, hread⟩ := hmem
    exact ⟨items[i], List.getElem_mem hi, Checked.under_eq_accepted_iff.1 hread⟩

/-! ### Numbers -/

variable {bound : Nat} (hv : v.isSmall bound = true)

include hv

theorem isWritable_of_isSmall {n : Int} (h : integer v = .accepted n) :
    Number.isWritable n = true := by
  refine isWritable_of_integer (fun m hm => ?_) h
  rw [hm] at hv
  exact Json.isSmall_int_iff.1 hv

theorem isWritable_of_atLeast {lo : Nat} {n : AtLeast lo} (h : atLeast lo v = .accepted n) :
    Number.isWritable n.val = true := by
  obtain ⟨m, hm, h⟩ := Checked.andThen_eq_accepted_iff.1 h
  split at h
  · cases h
  · cases h
    exact Number.isWritable_toNat (isWritable_of_isSmall hv hm)

end Schema

namespace Form

open Schema

variable {bound : Nat} {v : Json} (hv : v.isSmall bound = true)

/-! ## Listings -/

theorem isPlain_of_convention {v : Json} {c : FeeConvention} (h : convention v = .accepted c) :
    c.name.isPlain = true := by
  unfold convention named plainText at h
  split at h
  · split at h
    · split at h
      · rename_i hc
        cases h
        dsimp only at hc
        split at hc
        · cases hc
        · rename_i hknown
          cases hc
          generalize FeeConvention.ofName _ = c at hknown
          cases c with
          | other name => exact (hknown name rfl).elim
          | _ => rfl
      · cases h
    · cases h
  · cases h

theorem isWritable_of_rate {fs : Json.Fields} {name : Text} {n : Int}
    (h : required fs name (fun w => (upTo feeScale .lessThanEqual w).map fun n => (n.val : Int)) =
      .accepted n) : Number.isWritable n = true := by
  obtain ⟨_, -, h⟩ := required_eq_accepted_iff.1 h
  obtain ⟨m, -, rfl⟩ := Checked.map_eq_accepted_iff.1 h
  exact Number.isWritable_of_le_maxWord (m.property.trans (by decide))

theorem names_of_textValue (plane : Plane) {fs : Json.Fields} {name : Text} {w : Json}
    (h : defaulted fs name (.str "") textValue = .accepted w) : plane.Names w := by
  rcases defaulted_eq_accepted_iff.1 h with ⟨-, rfl⟩ | ⟨_, -, h⟩
  · exact .inl ⟨_, rfl⟩
  · obtain ⟨s, -, rfl⟩ := Checked.map_eq_accepted_iff.1 h
    exact .inl ⟨s, rfl⟩

theorem isSmall_of_fields {rule : Rule} {bound : Nat} {v : Json} (hv : v.isSmall bound = true)
    {fs : Json.Fields} (h : object rule v = .accepted fs) : (Json.obj fs).isSmall bound = true := by
  unfold object at h
  split at h
  · cases h
    exact hv
  · cases h

section

variable {bound : Nat} {fs : Json.Fields} (hfs : (Json.obj fs).isSmall bound = true) {name : Text}
  {n : Int}

include hfs

theorem isWritable_of_natural (h : required fs name natural = .accepted n) :
    Number.isWritable n = true := by
  obtain ⟨w, hw, h⟩ := required_eq_accepted_iff.1 h
  obtain ⟨m, hm, rfl⟩ := Checked.map_eq_accepted_iff.1 h
  exact isWritable_of_atLeast (Json.every_of_lookup hfs hw) hm

theorem isWritable_of_granularity
    (h : defaulted fs name 1 (fun w => (atLeast 1 w).map fun n => (n.val : Int)) = .accepted n) :
    Number.isWritable n = true := by
  rcases defaulted_eq_accepted_iff.1 h with ⟨-, rfl⟩ | ⟨w, hw, h⟩
  · exact Number.isWritable_of_le_maxWord (n := 1) (by decide)
  · obtain ⟨m, hm, rfl⟩ := Checked.map_eq_accepted_iff.1 h
    exact isWritable_of_atLeast (Json.every_of_lookup hfs hw) hm

end

include hv in
/-- A listing of a plain venue can be told, whatever its other fields are. -/
theorem listing_sayable {l : Listing} (hread : listing v = .accepted l)
    (hvenue : l.venue.isPlain = true) :
    ∃ plane, l.Sayable plane := by
  obtain ⟨fs, hfs, h⟩ := Checked.andThen_eq_accepted_iff.1 hread
  have hfields := isSmall_of_fields hv hfs
  simp only [Checked.and_eq_accepted_iff] at h
  -- the fields, from the last one to the first
  obtain ⟨_, granularity, ⟨_, denomB, ⟨_, denomA, ⟨_, convention, ⟨_, rate, ⟨_, b, ⟨_, a, ⟨_, plane,
    ⟨_, venue, h0, -, rfl⟩, hplane, rfl⟩, ha, rfl⟩, hb, rfl⟩, hrate, rfl⟩, hconvention, rfl⟩, hA,
    rfl⟩, hB, rfl⟩, hgranularity, rfl⟩ := h
  cases h0
  obtain ⟨_, -, hplane⟩ := required_eq_accepted_iff.1 hplane
  obtain ⟨known, -, rfl⟩ := Checked.map_eq_accepted_iff.1 hplane
  exact ⟨known,
    { venue := hvenue
      convention := by
        obtain ⟨_, -, hc⟩ := required_eq_accepted_iff.1 hconvention
        exact isPlain_of_convention hc
      reserveA := isWritable_of_natural hfields ha
      reserveB := isWritable_of_natural hfields hb
      feeRate := isWritable_of_rate hrate
      granularity := isWritable_of_granularity hfields hgranularity
      plane_eq := rfl
      namesA := names_of_textValue known hA
      namesB := names_of_textValue known hB }⟩

/-! ## State -/

/-- Objects are taken as they are. -/
theorem eq_obj_of_document {v w : Json} (h : document v = .accepted w) :
    w = v ∧ ∃ fields, v = .obj fields := by
  obtain ⟨fields, hfields, rfl⟩ := Checked.map_eq_accepted_iff.1 h
  unfold object at hfields
  split at hfields
  · cases hfields
    exact ⟨rfl, fields, rfl⟩
  · cases hfields

section

variable {fs : Json.Fields} (hfs : (Json.obj fs).isSmall bound = true) {name : Text}

include hfs

theorem given_response {w : Json} (h : required fs name document = .accepted w) :
    ∃ fields, w = .obj fields ∧ (Json.obj fields).isSmall bound = true := by
  obtain ⟨w', hw', h⟩ := required_eq_accepted_iff.1 h
  obtain ⟨rfl, fields, rfl⟩ := eq_obj_of_document h
  exact ⟨fields, rfl, Json.every_of_lookup hfs hw'⟩

theorem given_records {w : Json}
    (h : required fs name (fun w => (listOf document w).map Json.arr) = .accepted w) :
    ∃ items, w = .arr items ∧ (Json.arr items).isSmall bound = true ∧
      ∀ v ∈ items, ∃ fields, v = .obj fields := by
  obtain ⟨w', hw', h⟩ := required_eq_accepted_iff.1 h
  obtain ⟨as, has, rfl⟩ := Checked.map_eq_accepted_iff.1 h
  obtain ⟨items, rfl, hlength, hread⟩ := exists_items_of_listOf has
  have hsmall := Json.isSmall_arr_iff.1 (Json.every_of_lookup hfs hw')
  have hobject : ∀ a ∈ as, a ∈ items ∧ ∃ fields, a = .obj fields := by
    intro a ha
    obtain ⟨item, hitem, h⟩ := hread a ha
    obtain ⟨rfl, hfields⟩ := eq_obj_of_document h
    exact ⟨hitem, hfields⟩
  exact ⟨as, rfl, Json.isSmall_arr_iff.2 ⟨hlength ▸ hsmall.1, fun a ha => hsmall.2 a (hobject a ha).1⟩,
    fun a ha => (hobject a ha).2⟩

theorem given_reserves {o : Option (List Int)}
    (h : defaulted fs name none (nullable (listOf integer)) = .accepted o) :
    ∀ ns ∈ o, ns.length ≤ bound := by
  intro ns hns
  obtain ⟨w, hw, h⟩ := exists_of_defaulted_nullable h ns hns
  obtain ⟨items, rfl, hlength, -⟩ := exists_items_of_listOf h
  exact hlength ▸ (Json.isSmall_arr_iff.1 (Json.every_of_lookup hfs hw)).1

end

include hv in
/-- State that is read has the form of queries. -/
theorem pairState_given {state : PairState} (hread : pairState v = .accepted state) :
    state.Given bound := by
  obtain ⟨fs, hfs, h⟩ := Checked.andThen_eq_accepted_iff.1 hread
  have hfields := isSmall_of_fields hv hfs
  simp only [Checked.and_eq_accepted_iff] at h
  obtain ⟨_, reserves, ⟨_, records, ⟨_, response, h0, hresponse, rfl⟩, hrecords, rfl⟩, hreserves,
    rfl⟩ := h
  cases h0
  exact
    { response := given_response hfields hresponse
      records := given_records hfields hrecords
      reserves := given_reserves hfields hreserves }

/-! ## Requests -/

/-- What is known of a request for arbitrage that is read from a value with nothing in it that is longer
than a bound. -/
structure Arbitrage.Given (bound : Nat) (form : Form.Arbitrage) : Prop where
  amount : Number.isWritable form.request.amount = true
  least : ∀ n ∈ form.request.minProfit, Number.isWritable n = true
  who : ∃ (sender : Text) (svm : Option Text),
    form.request.who = ⟨.str sender, Json.ofText? svm⟩ ∧ ∀ a ∈ svm, a.length ≤ bound
  listings : ∀ l ∈ form.pools, l.venue.isPlain = true → ∃ plane, l.Sayable plane
  state : ∀ state ∈ form.state, state.Given bound

/-- A request whose texts are plain and, if it gives state, whose assets are sound. -/
structure Arbitrage.Sound (form : Form.Arbitrage) : Prop where
  pair : form.request.pair.isPlain = true
  account : form.request.who.senderSvm.isPlain = true
  venues : ∀ l ∈ form.pools, l.venue.isPlain = true
  assets : form.pools = [] → ∀ state ∈ form.state, state.SoundAssets

section

variable {fs : Json.Fields} (hfs : (Json.obj fs).isSmall bound = true)

include hfs

theorem given_trader {who : Trader} (h : trader fs = .accepted who) :
    ∃ (sender : Text) (svm : Option Text),
      who = ⟨.str sender, Json.ofText? svm⟩ ∧ ∀ a ∈ svm, a.length ≤ bound := by
  simp only [trader, Checked.and_eq_accepted_iff] at h
  obtain ⟨_, svm, ⟨_, sender, h0, -, rfl⟩, hsvm, rfl⟩ := h
  cases h0
  refine ⟨sender, svm, rfl, fun a ha => ?_⟩
  obtain ⟨w, hw, h⟩ := exists_of_defaulted_nullable hsvm a ha
  cases text_eq_accepted_iff.1 h
  exact Json.isSmall_str_iff.1 (Json.every_of_lookup hfs hw)

theorem given_listings {name : Text} {pools : List Listing}
    (h : defaulted fs name [] (listOf listing) = .accepted pools) :
    ∀ l ∈ pools, l.venue.isPlain = true → ∃ plane, l.Sayable plane := by
  intro l hl hvenue
  rcases defaulted_eq_accepted_iff.1 h with ⟨-, rfl⟩ | ⟨w, hw, h⟩
  · cases hl
  · obtain ⟨items, rfl, -, hread⟩ := exists_items_of_listOf h
    obtain ⟨item, hitem, h⟩ := hread l hl
    exact listing_sayable (Json.every_of_mem (Json.every_of_lookup hfs hw) hitem) h hvenue

end

include hv in
/-- **What a request that is read gives.** -/
theorem arbitrage_given {form : Form.Arbitrage} (hread : arbitrage v = .accepted form) :
    form.Given bound := by
  obtain ⟨fs, hfs, h⟩ := Checked.andThen_eq_accepted_iff.1 hread
  have hfields := isSmall_of_fields hv hfs
  simp only [Checked.and_eq_accepted_iff] at h
  obtain ⟨_, state, ⟨_, pools, ⟨_, who, ⟨_, least, ⟨_, amount, ⟨_, pair, h0, -, rfl⟩, hamount, rfl⟩,
    hleast, rfl⟩, hwho, rfl⟩, hpools, rfl⟩, hstate, rfl⟩ := h
  cases h0
  refine
    { amount := isWritable_of_natural hfields hamount
      least := fun n hn => by
        obtain ⟨w, hw, h⟩ := exists_of_defaulted_nullable hleast n hn
        exact isWritable_of_isSmall (Json.every_of_lookup hfields hw) h
      who := given_trader hfields hwho
      listings := given_listings hfields hpools
      state := fun st hst => ?_ }
  obtain ⟨w, hw, h⟩ := exists_of_defaulted_nullable hstate st hst
  exact pairState_given (Json.every_of_lookup hfields hw) h

end Form

end CrossVenue
