import CrossVenue.Proofs.Reported
import CrossVenue.Proofs.Text.Integer
import CrossVenue.Proofs.Venue.State

/-!
# Which assets are read

An asset is an object whose description names a token contract or a native denom, and whose amount is a text
of digits.  The reader asks for the fields, takes whatever it finds as the denom and whatever can be made an
integer as the amount, so it accepts more than that; what it accepts besides is stated here in full.  The one
amount that it neither accepts nor rejects is infinity.

* `Astroport.Describes`, `Astroport.assetDenom_eq_ok_iff` : who is described;
* `Astroport.StandsFor`, `Astroport.assetAmount_eq_ok_iff` : which values stand for an amount;
* `Astroport.parseAsset_eq_ok_iff`, `Astroport.fails_of_parseAsset` : what is accepted, and what fails how;
* `assets_parsed` : every value, against the grammar.
-/

set_option autoImplicit false

namespace CrossVenue

namespace Astroport

/-! ## The grammar, and what is read besides -/

/-- Who a description names: the contract of its token, or its native denom if it has no token. -/
inductive Describes (info : Json) : Json → Prop
  | token {token denom : Json} : info.field? "token" = some token →
      token.field? "contract_addr" = some denom → Describes info denom
  | native {native denom : Json} : info.field? "token" = none → info.field? "native_token" = some native →
      native.field? "denom" = some denom → Describes info denom

/-- Which integer a value stands for as an amount. -/
inductive StandsFor : Json → Int → Prop
  | int (n : Int) : StandsFor (.int n) n
  | yes : StandsFor (.bool true) 1
  | no : StandsFor (.bool false) 0
  | float {x : Binary64} {n : Int} : x.truncate? = some n → StandsFor (.float x) n
  | numeral (m : Text.Numeral) : StandsFor (.str (Text.ofChars m.chars)) m.value

/-- An asset that names its denom, and gives its amount in one way or another. -/
def Gives (asset denom : Json) (n : Int) : Prop :=
  ∃ info amount, asset.field? "info" = some info ∧ Describes info denom ∧
    asset.field? "amount" = some amount ∧ StandsFor amount n

/-- An asset that gives its amount in ASCII digits. -/
structure HasDigits (asset : Json) (digits : List Char) : Prop where
  isDigit_of_mem : ∀ c ∈ digits, c.isDigit = true
  written : asset.field? "amount" = some (.str (Text.ofChars digits))

/-- An asset in the grammar: its denom is a text, and its amount is given in digits, whose value is in
range. -/
structure IsAsset (asset : Json) (denom : Text) (digits : List Char) : Prop where
  described : ∃ info, asset.field? "info" = some info ∧ Describes info (.str denom)
  spelled : HasDigits asset digits
  nonempty : digits ≠ []
  fits : Text.digitsValue digits ≤ maxWord128

/-- An asset of infinite amount. -/
def IsInfinite (asset : Json) : Prop :=
  ∃ info denom negative, asset.field? "info" = some info ∧ Describes info denom ∧
    asset.field? "amount" = some (.float (.infinite negative))

/-! ## Descriptions -/

theorem holds_of_field? {v w : Json} {other : Text} (h : v.field? other = some w) (name : Text) :
    holds v name = .ok (v.field? name).isSome := by
  cases v with
  | obj fields => rfl
  | _ => cases h

theorem field?_of_holds {v : Json} {name : Text} (h : holds v name = .ok false) : v.field? name = none := by
  cases v with
  | obj fields => exact Option.isSome_eq_false_iff.1 (Except.ok.inj h) |> Option.isNone_iff_eq_none.1
  | _ => rfl

/-- **Who is described.** -/
theorem assetDenom_eq_ok_iff {info denom : Json} : assetDenom info = .ok denom ↔ Describes info denom := by
  unfold assetDenom
  constructor
  · intro h
    obtain ⟨isToken, htoken, h⟩ := bind_eq_ok_iff.1 h
    split at h
    · obtain ⟨token, hfield, h⟩ := bind_eq_ok_iff.1 h
      exact .token (part_eq_ok_iff.1 hfield) (part_eq_ok_iff.1 h)
    · rename_i hnot
      obtain ⟨isNative, -, h⟩ := bind_eq_ok_iff.1 h
      split at h
      · obtain ⟨native, hfield, h⟩ := bind_eq_ok_iff.1 h
        have habsent : isToken = false := Bool.eq_false_iff.2 hnot
        exact .native (field?_of_holds (habsent ▸ htoken)) (part_eq_ok_iff.1 hfield) (part_eq_ok_iff.1 h)
      · cases h
  · rintro (⟨htoken, hdenom⟩ | ⟨habsent, hnative, hdenom⟩)
    · rw [holds_of_field? htoken, htoken, part_eq_ok_iff.2 htoken]
      exact part_eq_ok_iff.2 hdenom
    · rw [holds_of_field? hnative, habsent, holds_of_field? hnative, hnative, part_eq_ok_iff.2 hnative]
      exact part_eq_ok_iff.2 hdenom

/-! ## Amounts -/

/-- **Which values stand for an amount.** -/
theorem assetAmount_eq_ok_iff {v : Json} {n : Int} : assetAmount v = .ok n ↔ StandsFor v n := by
  constructor
  · intro h
    unfold assetAmount at h
    split at h
    · cases h
      exact .int n
    · rename_i b
      cases h
      cases b
      · exact .no
      · exact .yes
    · split at h
      · rename_i hread
        cases h
        obtain ⟨m, rfl, rfl⟩ := Text.readInteger?_eq_some_iff.1 hread
        exact .numeral m
      · cases h
    · cases h
    · split at h
      · rename_i hwhole
        cases h
        exact .float hwhole
      · cases h
    · cases h
  · rintro (_ | _ | _ | @⟨x, n, h⟩ | m)
    · rfl
    · rfl
    · rfl
    · cases x with
      | finite => simp only [assetAmount, h]
      | infinite => cases h
      | undefined => cases h
    · have hread : Text.readInteger? (Text.ofChars m.chars) = some m.value :=
        Text.readInteger?_eq_some_iff.2 ⟨m, rfl, rfl⟩
      simp only [assetAmount, hread]

theorem assetAmount_eq_error_iff_infinite {v : Json} :
    assetAmount v = .error .infinite ↔ ∃ negative, v = .float (.infinite negative) := by
  constructor
  · intro h
    unfold assetAmount at h
    split at h
    · cases h
    · cases h
    · split at h <;> cases h
    · exact ⟨_, rfl⟩
    · split at h <;> cases h
    · cases h
  · rintro ⟨negative, rfl⟩
    rfl

/-- Digits stand for the number that they spell, if there are any and not too many. -/
theorem standsFor_digits_iff {digits : List Char} (h : ∀ c ∈ digits, c.isDigit = true) {n : Int} :
    StandsFor (.str (Text.ofChars digits)) n ↔
      digits ≠ [] ∧ digits.length ≤ Number.maxDigits ∧ n = Text.digitsValue digits := by
  rw [← assetAmount_eq_ok_iff]
  simp only [assetAmount, Text.readInteger?_ofDigits h]
  by_cases hread : digits ≠ [] ∧ digits.length ≤ Number.maxDigits
  · rw [if_pos hread]
    constructor
    · intro h
      exact ⟨hread.1, hread.2, (Except.ok.inj h).symm⟩
    · rintro ⟨-, -, rfl⟩
      rfl
  · rw [if_neg hread]
    constructor
    · intro h
      cases h
    · rintro ⟨hne, hshort, -⟩
      exact absurd ⟨hne, hshort⟩ hread

/-! ## Assets -/

variable {asset denom : Json} {n : Int}

theorem assetParts_eq_ok_iff_gives : assetParts asset = .ok (denom, n) ↔ Gives asset denom n := by
  simp only [assetParts_eq_ok_iff, assetDenom_eq_ok_iff, assetAmount_eq_ok_iff, Gives]

/-- An infinite amount is only met where an asset is described. -/
theorem assetParts_eq_error_iff_infinite : assetParts asset = .error .infinite ↔ IsInfinite asset := by
  have hpart : ∀ v name, part v name ≠ .error .infinite := by
    intro v name h
    cases failsOnly_part v name _ h
  have hdenom : ∀ info, assetDenom info ≠ .error .infinite := by
    intro info h
    rcases failsOnly_assetDenom info _ h with h | h <;> cases h
  simp only [assetParts, bind_eq_error_iff, hpart, hdenom, part_eq_ok_iff, assetDenom_eq_ok_iff,
    assetAmount_eq_error_iff_infinite, reduceCtorEq, and_false, exists_false, or_false, false_or]
  constructor
  · rintro ⟨info, hinfo, denom, hdescribed, _, hamount, negative, rfl⟩
    exact ⟨info, denom, negative, hinfo, hdescribed, hamount⟩
  · rintro ⟨info, denom, negative, hinfo, hdescribed, hamount⟩
    exact ⟨info, hinfo, denom, hdescribed, _, hamount, negative, rfl⟩

/-- **What is accepted.** -/
theorem parseAsset_eq_ok_iff {n : Nat} :
    parseAsset asset = .ok (denom, n) ↔ Gives asset denom n ∧ n ≤ maxWord128 := by
  simp only [parseAsset, bind_eq_ok_iff, mapError_eq_ok_iff]
  constructor
  · rintro ⟨⟨denom', m⟩, hparts, h⟩
    dsimp only at h
    split at h
    · cases h
    · rename_i hrange
      obtain ⟨rfl, rfl⟩ := Prod.mk.inj (Except.ok.inj h)
      have hm : ((m.toNat : Nat) : Int) = m := Int.toNat_of_nonneg (by omega)
      rw [hm]
      exact ⟨assetParts_eq_ok_iff_gives.1 hparts, by omega⟩
  · rintro ⟨hgives, hle⟩
    refine ⟨(denom, n), assetParts_eq_ok_iff_gives.2 hgives, ?_⟩
    dsimp only
    rw [if_neg (by omega), Int.toNat_natCast]

/-- What is said of an asset that is not read shows the asset itself, or its description. -/
inductive Tells (asset : Json) : StateFault → Prop
  | asset : Tells asset (.invalidAsset asset.inSentence)
  | info {info : Json} : asset.field? "info" = some info →
      Tells asset (.unknownAssetInfo info.inSentence)

theorem failsOnly_assetAmount_kind (v : Json) :
    FailsOnly (fun fault => fault = .malformed ∨ fault = .infinite) (assetAmount v) := by
  intro fault h
  unfold assetAmount at h
  split at h
  · cases h
  · cases h
  · split at h <;> cases h
    exact .inl rfl
  · cases h
    exact .inr rfl
  · split at h <;> cases h
    exact .inl rfl
  · cases h
    exact .inl rfl

/-- A description that is not known is that of the asset. -/
theorem info_of_unknownInfo {info : Json} (h : assetParts asset = .error (.unknownInfo info)) :
    asset.field? "info" = some info := by
  rcases bind_eq_error_iff.1 h with hpart | ⟨given, hgiven, h⟩
  · cases failsOnly_part _ _ _ hpart
  rcases bind_eq_error_iff.1 h with hdenom | ⟨_, -, h⟩
  · rcases failsOnly_assetDenom _ _ hdenom with hfault | hfault <;> cases hfault
    exact part_eq_ok_iff.1 hgiven
  rcases bind_eq_error_iff.1 h with hpart | ⟨v, -, h⟩
  · cases failsOnly_part _ _ _ hpart
  rcases bind_eq_error_iff.1 h with hamount | ⟨_, -, h⟩
  · rcases failsOnly_assetAmount_kind _ _ hamount with hfault | hfault <;> cases hfault
  · cases h

/-- All faults but that of an infinite amount are rejected. -/
theorem exists_tells_of_assetParts {fault : AssetFault} (h : assetParts asset = .error fault)
    (hfinite : fault ≠ .infinite) : ∃ state, Tells asset state ∧
      fault.failure asset = Rejection.failure ⟨.state state, assetVenue⟩ := by
  cases fault with
  | malformed => exact ⟨_, .asset, rfl⟩
  | unknownInfo info => exact ⟨_, .info (info_of_unknownInfo h), rfl⟩
  | infinite => exact absurd rfl hfinite

/-- How an asset fails. -/
inductive Fails (asset : Json) : Failure → Prop
  /-- An amount that is infinite is not foreseen. -/
  | infinite : IsInfinite asset → Fails asset (.broken .notFinite)
  /-- An amount that is out of range is rejected. -/
  | outside {denom : Json} {n : Int} : Gives asset denom n → n < 0 ∨ (maxWord128 : Int) < n →
      Fails asset (Rejection.failure ⟨.state (.assetAmountOutside n), assetVenue⟩)
  /-- Everything else is rejected as state that is not read, which shows it. -/
  | malformed {fault : StateFault} : (∀ denom n, ¬ Gives asset denom n) → ¬ IsInfinite asset →
      Tells asset fault → Fails asset (Rejection.failure ⟨.state fault, assetVenue⟩)

/-- **What fails, and how.** -/
theorem fails_of_parseAsset {failure : Failure} (h : parseAsset asset = .error failure) :
    Fails asset failure := by
  rw [parseAsset] at h
  cases hparts : assetParts asset with
  | error fault =>
    have hnot : ∀ denom n, ¬ Gives asset denom n := by
      intro denom n hgives
      rw [assetParts_eq_ok_iff_gives.2 hgives] at hparts
      cases hparts
    rw [hparts] at h
    cases h
    by_cases hinfinite : fault = .infinite
    · subst hinfinite
      exact .infinite (assetParts_eq_error_iff_infinite.1 hparts)
    · have hfinite : ¬ IsInfinite asset := by
        intro h
        rw [assetParts_eq_error_iff_infinite.2 h] at hparts
        exact hinfinite (Except.error.inj hparts).symm
      obtain ⟨state, htells, hstate⟩ := exists_tells_of_assetParts hparts hinfinite
      rw [hstate]
      exact .malformed hnot hfinite htells
  | ok parts =>
    obtain ⟨denom, n⟩ := parts
    rw [hparts] at h
    change (if n < 0 ∨ (maxWord128 : Int) < n then failAt _ _ else .ok (denom, n.toNat)) = _ at h
    split at h
    · rename_i hrange
      rw [failAt, Except.error.injEq] at h
      rw [← h]
      exact .outside (assetParts_eq_ok_iff_gives.1 hparts) hrange
    · cases h

/-- What is said of an asset can be written if its integers can. -/
theorem Tells.failure_eq {state : StateFault} (h : Tells asset state) (hw : asset.isWritable = true) :
    Rejection.failure ⟨.state state, assetVenue⟩ = .rejected ⟨.state state, assetVenue⟩ := by
  apply failure_of_isWritable
  cases h with
  | asset => exact Json.inSentence_isWritable hw
  | info hinfo => exact Json.inSentence_isWritable (Json.every_of_field? hw hinfo)

theorem exists_rejected_of_parseAsset (hw : asset.isWritable = true)
    (hnot : ∀ denom n, ¬ Gives asset denom n) (hfinite : ¬ IsInfinite asset) :
    ∃ state, parseAsset asset = .error (.rejected ⟨.state state, assetVenue⟩) := by
  cases hparse : parseAsset asset with
  | ok parts => exact absurd (parseAsset_eq_ok_iff.1 hparse).1 (hnot parts.1 parts.2)
  | error failure =>
    cases fails_of_parseAsset hparse with
    | infinite hinfinite => exact absurd hinfinite hfinite
    | outside hgives => exact absurd hgives (hnot _ _)
    | malformed _ _ htells => exact ⟨_, congrArg Except.error (htells.failure_eq hw)⟩

/-- **The grammar against what is accepted**: its assets are those that are accepted with a text as their
denom and with digits as their amount, of which there are few enough. -/
theorem exists_isAsset_iff {denom : Text} {n : Nat} :
    (∃ digits, IsAsset asset denom digits ∧ digits.length ≤ Number.maxDigits ∧ n = Text.digitsValue digits) ↔
      parseAsset asset = .ok (.str denom, n) ∧ ∃ digits, HasDigits asset digits := by
  rw [parseAsset_eq_ok_iff]
  constructor
  · rintro ⟨digits, h, hshort, rfl⟩
    obtain ⟨info, hinfo, hdescribed⟩ := h.described
    have hstands := (standsFor_digits_iff h.spelled.isDigit_of_mem).2 ⟨h.nonempty, hshort, rfl⟩
    exact ⟨⟨⟨info, _, hinfo, hdescribed, h.spelled.written, hstands⟩, h.fits⟩, digits, h.spelled⟩
  · rintro ⟨⟨⟨info, amount, hinfo, hdescribed, hamount, hstands⟩, hle⟩, digits, hdigits⟩
    obtain rfl := Option.some.inj (hamount.symm.trans hdigits.written)
    obtain ⟨hne, hshort, hn⟩ := (standsFor_digits_iff hdigits.isDigit_of_mem).1 hstands
    obtain rfl := Int.ofNat.inj hn
    exact ⟨digits, ⟨⟨info, hinfo, hdescribed⟩, hdigits, hne, hle⟩, hshort, rfl⟩

/-- What becomes of an asset. -/
structure Parses (asset : Json) : Prop where
  /-- It is accepted if its fields give a denom and an amount in range, -/
  accepted_iff : ∀ denom n, parseAsset asset = .ok (denom, n) ↔ Gives asset denom n ∧ n ≤ maxWord128
  /-- among which the grammar has those of textual denom and digits as amount, -/
  grammar_iff : ∀ denom n,
    (∃ digits, IsAsset asset denom digits ∧ digits.length ≤ Number.maxDigits ∧ n = Text.digitsValue digits) ↔
      parseAsset asset = .ok (.str denom, n) ∧ ∃ digits, HasDigits asset digits
  /-- and it is rejected otherwise, unless its amount is infinite or what is said of it cannot be written, -/
  failed : ∀ failure, parseAsset asset = .error failure → Fails asset failure
  /-- which is no matter for an asset whose integers all can. -/
  rejected : asset.isWritable = true → (∀ denom n, ¬ Gives asset denom n) → ¬ IsInfinite asset →
    ∃ state, parseAsset asset = .error (.rejected ⟨.state state, assetVenue⟩)

end Astroport

open Astroport

/-- **Assets, read and rejected**, against the grammar of assets. -/
theorem assets_parsed (asset : Json) : Parses asset where
  accepted_iff _ _ := parseAsset_eq_ok_iff
  grammar_iff _ _ := exists_isAsset_iff
  failed _ := fails_of_parseAsset
  rejected := exists_rejected_of_parseAsset

/-- An asset of a token contract. -/
def tokenAsset (contract amount : Json) : Json :=
  .obj [("info", .obj [("token", .obj [("contract_addr", contract)])]), ("amount", amount)]

/-- **More than the grammar is accepted**: a denom that is null with a truth value as amount, and a text
with an underscore between its digits; and an infinite amount is not rejected. -/
theorem assets_beyond_grammar :
    parseAsset (tokenAsset .null (.bool true)) = .ok (.null, 1) ∧
      parseAsset (tokenAsset (.str "usdt") (.str " +1_0")) = .ok (.str "usdt", 10) ∧
      (∀ denom digits, ¬ IsAsset (tokenAsset .null (.bool true)) denom digits ∧
        ¬ IsAsset (tokenAsset (.str "usdt") (.str " +1_0")) denom digits) ∧
      parseAsset (tokenAsset (.str "usdt") (.float (.infinite false))) = .error (.broken .notFinite) := by
  refine ⟨rfl, rfl, fun denom digits => ⟨fun h => ?_, fun h => ?_⟩, rfl⟩
  · cases h.spelled.written
  · have hwritten : (" +1_0" : Text) = Text.ofChars digits := Json.str.inj (Option.some.inj h.spelled.written)
    have hmem : ' ' ∈ digits := by
      have hchars := congrArg Text.chars? hwritten
      rw [Text.chars?_ofChars] at hchars
      rw [← Option.some.inj hchars]
      decide
    exact absurd (h.spelled.isDigit_of_mem _ hmem) (by decide)

end CrossVenue
