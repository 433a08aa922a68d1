import CrossVenue.Proofs.Computation
import CrossVenue.Pool.Quote
import CrossVenue.Proofs.Message.Reading
import CrossVenue.Proofs.Registry.Factor
import CrossVenue.Venue.Transfer

/-!
# What a transfer says

The message of a transfer names both planes, the account on both ends and what is moved.

* `Transfer.moved?` : the reader of such messages;
* `Transfer.compose_moves` : what the message of a composed transfer says;
* `Transfer.compose_units` : what it says about an asset that has one factor everywhere.
-/

set_option autoImplicit false

namespace CrossVenue

namespace Transfer

/-- What a transfer moves. -/
structure Moved where
  source : Plane
  target : Plane
  sender : Text
  receiver : Text
  /-- The denom as the bank knows it. -/
  denom : Text
  amount : Nat
deriving DecidableEq, Repr

/-- Reads the message of a transfer. -/
def moved? (body : Json) : Option Moved := do
  let source ← Plane.ofName? (← body.textAt? ["src_plane"])
  let target ← Plane.ofName? (← body.textAt? ["dst_plane"])
  some ⟨source, target, ← body.textAt? ["sender"], ← body.textAt? ["receiver"],
    ← body.textAt? ["coin", "denom"], ← body.amountAt? ["coin", "amount"]⟩

/-- The denom as the bank knows it, as a text. -/
def bankName (source : Plane) (denom : Text) : Text :=
  if source = .evm ∨ source = .svm then bankLead ++ denom else denom

end Transfer

/-- What the transfer of an instruction moves. -/
def PlaneInstruction.moved? (i : PlaneInstruction) : Option Transfer.Moved :=
  if i.plane = .cosmos then i.body?.bind Transfer.moved? else none

namespace Transfer

theorem bankDenom_str (source : Plane) (denom : Text) :
    bankDenom source (.str denom) = .ok (.str (bankName source denom)) := by
  unfold bankDenom bankName
  split <;> rfl

theorem planeOf_name (p : Plane) : planeOf (.str p.name) = .ok p := by
  simp only [planeOf, Plane.ofName?_name]

theorem isReadable_payload (sender denom : Text) (source target : Plane) (amount : Text) {room : Nat}
    (h : 6 ≤ room) :
    (payload (.str sender) source target (.str denom) amount).IsReadable room := by
  simp [payload, Json.IsReadable, Json.HaveReadable, Text.ofString_inj]
  omega

theorem moved?_payload (sender denom : Text) (source target : Plane) {n : Nat}
    (hn : n < Number.tooLong) :
    moved? (payload (.str sender) source target (.str denom) (toString n)).rejoined =
      some ⟨source, target, sender.rejoined, sender.rejoined, denom.rejoined, n⟩ := by
  simp [moved?, payload, Json.rejoined, Json.rejoinedFields, Json.textAt?, Json.amountAt?,
      Json.at?, Json.field?, List.lookup_cons, Text.ofString_beq, textOf?, Plane.ofName?_name,
      Json.amountOf?_repr hn]

/-- What a transfer is composed of. -/
theorem compose_eq_ok {room : Room} {r : Registry} {sender source target denom : Json} {amount : Int}
    {i : PlaneInstruction} (h : compose room r sender source target denom amount = .ok i) :
    ∃ start finish entering name, planeOf source = .ok start ∧ planeOf target = .ok finish ∧
      enteringFactor r finish denom = .ok entering ∧ bankDenom start denom = .ok name ∧
      movable (leavingFactor r start denom) entering amount.toNat ≤ maxWord128 ∧
      i = .carrying .cosmos PlaneInstruction.invokeCosmos (payload sender start finish name
        (toString (movable (leavingFactor r start denom) entering amount.toNat))) := by
  simp only [compose, bind_eq_ok_iff, lift_eq_ok_iff] at h
  obtain ⟨start, hstart, finish, hfinish, h⟩ := h
  split at h
  · cases h
  simp only [bind_eq_ok_iff] at h
  obtain ⟨entering, hentering, h⟩ := h
  split at h
  · cases h
  rename_i hle
  simp only [send, bind_eq_ok_iff] at h
  obtain ⟨name, hname, -, -, h⟩ := h
  exact ⟨start, finish, entering, name, hstart, hfinish, hentering, hname, by omega,
    PlaneInstruction.eq_carrying_of_ofPayload h⟩

/-- **What a composed transfer moves.** -/
theorem compose_moves {room : Room} {r : Registry} {sender denom : Text} {source target : Plane} {n : Nat}
    {i : PlaneInstruction}
    (h : compose room r (.str sender) (.str source.name) (.str target.name) (.str denom) n = .ok i) :
    ∃ entering, enteringFactor r target (.str denom) = .ok entering ∧
      i.moved? = some ⟨source, target, sender.rejoined, sender.rejoined,
        (bankName source denom).rejoined,
        movable (leavingFactor r source (.str denom)) entering n⟩ := by
  obtain ⟨start, finish, entering, name, hstart, hfinish, hentering, hname, hle, rfl⟩ := compose_eq_ok h
  cases (planeOf_name source).symm.trans hstart
  cases (planeOf_name target).symm.trans hfinish
  cases (bankDenom_str source denom).symm.trans hname
  refine ⟨entering, hentering, ?_⟩
  rw [Int.toNat_natCast] at hle ⊢
  have hlt : maxWord128 < Number.tooLong := by decide +kernel
  refine (if_pos rfl).trans ?_
  rw [PlaneInstruction.body?_carrying (isReadable_payload _ _ _ _ _ Room.least.ample)]
  exact moved?_payload sender (bankName source denom) source target (hle.trans_lt hlt)

/-- What is moved between two planes: as much as the second one can hold, in units of the first one. -/
theorem movable_units (n factor : Nat) {start finish : Plane} (h : start ≠ finish) :
    movable (start.unit factor) (finish.unit factor) n =
      roundDown n (finish.unit factor) / start.unit factor := by
  by_cases hs : start = .svm
  · have hf : finish ≠ .svm := fun hf => h (hs.trans hf.symm)
    rw [Plane.unit_of_ne hf, roundDown_one, movable, Nat.div_one, Nat.mul_one]
  · rw [Plane.unit_of_ne hs, movable, Nat.div_one, Nat.div_one, roundDown]

/-- **A transfer moves as much of an asset as its target can hold**, in units of its source, if both
lookups find the same factor for the asset. -/
theorem compose_units {room : Room} {r : Registry} {sender denom : Text} {factor n : Nat}
    {start finish : Plane} {i : PlaneInstruction} (hne : start ≠ finish)
    (hmint : factorOfMint r (.str (r.svmMint denom)) = factor)
    (hsymbol : factorOfSymbol r (.str denom) = .ok factor)
    (h : compose room r (.str sender) (.str start.name) (.str finish.name)
      (.str (r.nameOn denom start)) n = .ok i) :
    i.moved? = some ⟨start, finish, sender.rejoined, sender.rejoined,
      (bankName start (r.nameOn denom start)).rejoined,
      roundDown n (finish.unit factor) / start.unit factor⟩ := by
  obtain ⟨entering, hentering, hmoved⟩ := compose_moves h
  have hleaving : leavingFactor r start (.str (r.nameOn denom start)) = start.unit factor := by
    cases start with
    | svm => exact hmint
    | _ => rfl
  have hentering' : entering = finish.unit factor := by
    cases finish with
    | svm =>
      have hname : r.nameOn denom start = denom := by
        cases start with
        | svm => exact absurd rfl hne
        | _ => rfl
      rw [hname] at hentering
      exact Except.ok.inj (hentering.symm.trans hsymbol)
    | _ => exact (Except.ok.inj hentering).symm
  rw [hmoved, hleaving, hentering', movable_units n factor hne]

end Transfer

end CrossVenue
