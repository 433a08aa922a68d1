import CrossVenue.Address.Derived
import CrossVenue.Proofs.Address.Spelling

/-!
# The search for an address

The search tries one more seed of one byte, from 255 down, and skips only seeds whose address is on the
curve.  What can be wrong with its input is found before or at the first try, in one order: seeds that are
neither bytes nor keys, a program that is no key, too many or too long seeds.

* `createProgramAddress_bump` : one try;
* `findFrom_cases` : the loop, by induction on the bumps that are left;
* `SearchEnds`, `findProgramAddress_ends` : the five ways in which a search ends;
* `search_finds_highest` : the bump that is found is the highest good one, and every fault is reported
  under its own name.
-/

set_option autoImplicit false

namespace CrossVenue

/-- Is a computation rejected under a name? -/
def RejectedAs {α : Type} (kind : String) (x : Except Rejection α) : Prop :=
  ∃ r, x = .error r ∧ r.kindName = kind

section

variable {α : Type} {kind : String}

@[simp]
theorem rejectedAs_ok_iff {a : α} : RejectedAs kind (.ok a) ↔ False := by
  simp [RejectedAs]

@[simp]
theorem rejectedAs_error_iff {r : Rejection} :
    RejectedAs kind (.error r : Except Rejection α) ↔ r.kindName = kind := by
  simp [RejectedAs]

end

variable {seeds : List RawKey} {program : RawKey} {bytes : List Bytes} {key : Pubkey}

/-! ## Seeds -/

/-- The seed that the search adds. -/
def bumpSeed (bump : Nat) : RawKey := .bytes [UInt8.ofNat bump]

/-- All seeds are bytes or keys. -/
def AreSeeds (seeds : List RawKey) : Prop := ∀ s ∈ seeds, ∀ v, s ≠ .value v

/-- Seeds to which one more can be added: fewer than 255, of at most thirty-two bytes each. -/
def LeavesRoom (seeds : List Bytes) : Prop :=
  seeds.length < 255 ∧ ∀ s ∈ seeds, s.length ≤ 32

theorem seedBytes_value (v : Json) : ∃ fault, seedBytes (.value v) = .error ⟨.seed fault, ""⟩ :=
  ⟨_, rfl⟩

theorem exists_seedBytes {s : RawKey} (h : ∀ v, s ≠ .value v) : ∃ bs, seedBytes s = .ok bs := by
  cases s with
  | key k => exact ⟨_, rfl⟩
  | bytes bs => exact ⟨_, rfl⟩
  | value v => exact absurd rfl (h v)

/-- Seeds are read exactly when they are bytes or keys; else the first that is neither is rejected. -/
theorem mapM_seedBytes_cases (seeds : List RawKey) :
    (AreSeeds seeds ∧ ∃ bytes, seeds.mapM seedBytes = .ok bytes) ∨
      (¬ AreSeeds seeds ∧ ∃ fault, seeds.mapM seedBytes = .error ⟨.seed fault, ""⟩) := by
  induction seeds with
  | nil => exact .inl ⟨by simp [AreSeeds], [], rfl⟩
  | cons s seeds ih =>
    have hcons : AreSeeds (s :: seeds) ↔ (∀ v, s ≠ .value v) ∧ AreSeeds seeds := List.forall_mem_cons
    rw [hcons, List.mapM_cons]
    by_cases hs : ∀ v, s ≠ .value v
    · obtain ⟨bs, hbs⟩ := exists_seedBytes hs
      rcases ih with ⟨hall, bytes, hbytes⟩ | ⟨hnot, fault, hfault⟩
      · exact .inl ⟨⟨hs, hall⟩, bs :: bytes, by rw [hbs, hbytes]; rfl⟩
      · exact .inr ⟨fun h => hnot h.2, fault, by rw [hbs, hfault]; rfl⟩
    · obtain ⟨v, rfl⟩ : ∃ v, s = .value v := by simpa using hs
      obtain ⟨fault, hfault⟩ := seedBytes_value v
      exact .inr ⟨fun h => hs h.1, fault, by rw [hfault]; rfl⟩

theorem areSeeds_of_read (h : seeds.mapM seedBytes = .ok bytes) : AreSeeds seeds := by
  rcases mapM_seedBytes_cases seeds with ⟨hall, -⟩ | ⟨-, fault, hfault⟩
  · exact hall
  · rw [hfault] at h
    cases h

/-- What there is no room for, said of the seeds as they are given. -/
theorem not_leavesRoom_iff (h : seeds.mapM seedBytes = .ok bytes) :
    ¬ LeavesRoom bytes ↔
      255 ≤ seeds.length ∨ ∃ s ∈ seeds, ∃ bs, seedBytes s = .ok bs ∧ 32 < bs.length := by
  have hlength : seeds.length = bytes.length := (forall₂_of_mapM_ok h).length_eq
  rw [LeavesRoom, not_and_or, hlength]
  refine or_congr Nat.not_lt ?_
  simp only [not_forall, mem_iff_of_mapM_ok h, Nat.not_le, exists_prop]
  constructor
  · rintro ⟨bs, ⟨s, hs, hbs⟩, hlong⟩
    exact ⟨s, hs, bs, hbs, hlong⟩
  · rintro ⟨s, hs, bs, hbs, hlong⟩
    exact ⟨bs, ⟨s, hs, hbs⟩, hlong⟩

theorem requireSeeds_cases (seeds : List Bytes) :
    (requireSeeds seeds = .ok () ∧ seeds.length ≤ 255 ∧ ∀ s ∈ seeds, s.length ≤ 32) ∨
      (¬ (seeds.length ≤ 255 ∧ ∀ s ∈ seeds, s.length ≤ 32) ∧
        ∃ fault, requireSeeds seeds = .error ⟨.seedLength fault, ""⟩) := by
  unfold requireSeeds requireShortSeeds reject
  split
  · rename_i hmany
    exact .inr ⟨fun h => Nat.not_lt.2 h.1 hmany, _, rfl⟩
  rename_i hcount
  split
  · rename_i s hs
    have hlong : maxSeedLength < s.length := by simpa using List.find?_some hs
    exact .inr ⟨fun h => Nat.not_lt.2 (h.2 s (List.mem_of_find?_eq_some hs)) hlong, _, rfl⟩
  · rename_i hnone
    have hshort : ∀ s ∈ seeds, s.length ≤ maxSeedLength := by simpa using hnone
    exact .inl ⟨rfl, Nat.not_lt.1 hcount, hshort⟩

/-- Seeds with a bump are as many and as long as they may be when there is room for the bump. -/
theorem requireSeeds_bump (seeds : List Bytes) (bump : Nat) :
    (LeavesRoom seeds ∧ requireSeeds (seeds ++ [[UInt8.ofNat bump]]) = .ok ()) ∨
      (¬ LeavesRoom seeds ∧
        ∃ fault, requireSeeds (seeds ++ [[UInt8.ofNat bump]]) = .error ⟨.seedLength fault, ""⟩) := by
  have hroom : ((seeds ++ [[UInt8.ofNat bump]]).length ≤ 255 ∧
      ∀ s ∈ seeds ++ [[UInt8.ofNat bump]], s.length ≤ 32) ↔ LeavesRoom seeds := by
    rw [LeavesRoom, List.length_append, List.length_singleton, Nat.succ_le_iff, List.forall_mem_append]
    simp
  rcases requireSeeds_cases (seeds ++ [[UInt8.ofNat bump]]) with ⟨h, hgood⟩ | ⟨hbad, h⟩
  · exact .inl ⟨hroom.1 hgood, h⟩
  · exact .inr ⟨fun h' => hbad (hroom.2 h'), h⟩

/-! ## One try -/

/-- The digest of seeds with a bump, as a key. -/
def addressAt (seeds : List Bytes) (program : Pubkey) (bump : Nat) : Pubkey :=
  ⟨programDigest (seeds ++ [[UInt8.ofNat bump]]) program, programDigest_length _ program⟩

/-- Is the digest of seeds with a bump on the curve? -/
def OnCurveAt (seeds : List Bytes) (program : Pubkey) (bump : Nat) : Prop :=
  Edwards25519.decompresses (addressAt seeds program bump).bytes = true

instance (seeds : List Bytes) (program : Pubkey) (bump : Nat) :
    Decidable (OnCurveAt seeds program bump) := inferInstanceAs (Decidable (_ = true))

theorem isOnCurve_addressAt (seeds : List Bytes) (program : Pubkey) (bump : Nat) :
    isOnCurve (addressAt seeds program bump).bytes = .ok (decide (OnCurveAt seeds program bump)) := by
  have hlength : (addressAt seeds program bump).bytes.length = Pubkey.size := Pubkey.length_eq _
  rw [isOnCurve, if_pos hlength]
  exact congrArg Except.ok (Bool.decide_eq_true).symm

theorem offCurveAddress_bump (seeds : List Bytes) (program : Pubkey) (bump : Nat) :
    offCurveAddress (seeds ++ [[UInt8.ofNat bump]]) program =
      if OnCurveAt seeds program bump then .error ⟨.seed .onCurve, ""⟩
      else .ok (addressAt seeds program bump) := by
  by_cases h : OnCurveAt seeds program bump
  · rw [if_pos h, offCurveAddress]
    exact if_pos h
  · rw [if_neg h, offCurveAddress]
    exact if_neg h

theorem addressOfSeeds_bump (hroom : LeavesRoom bytes) (hkey : Pubkey.ofRaw program = .ok key)
    (bump : Nat) :
    addressOfSeeds (bytes ++ [[UInt8.ofNat bump]]) program =
      if OnCurveAt bytes key bump then .error ⟨.seed .onCurve, ""⟩
      else .ok (addressAt bytes key bump) := by
  rcases requireSeeds_bump bytes bump with ⟨-, h⟩ | ⟨hno, -⟩
  · simp only [addressOfSeeds, h, hkey, bind, Except.bind]
    exact offCurveAddress_bump bytes key bump
  · exact absurd hroom hno

theorem addressOfSeeds_bump_of_no_room (hno : ¬ LeavesRoom bytes) (program : RawKey) (bump : Nat) :
    ∃ fault, addressOfSeeds (bytes ++ [[UInt8.ofNat bump]]) program =
      .error ⟨.seedLength fault, ""⟩ := by
  rcases requireSeeds_bump bytes bump with ⟨hroom, -⟩ | ⟨-, fault, h⟩
  · exact absurd hroom hno
  · exact ⟨fault, by rw [addressOfSeeds, h]; rfl⟩

/-- A try on what is given is a try on what is read. -/
theorem createProgramAddress_of_read (hbytes : seeds.mapM seedBytes = .ok bytes) (program : RawKey)
    (bump : Nat) :
    createProgramAddress (seeds ++ [bumpSeed bump]) program =
      addressOfSeeds (bytes ++ [[UInt8.ofNat bump]]) program := by
  have hread : (seeds ++ [bumpSeed bump]).mapM seedBytes = .ok (bytes ++ [[UInt8.ofNat bump]]) := by
    rw [List.mapM_append, hbytes]
    rfl
  rw [createProgramAddress, hread]
  rfl

/-- **One try**, once seeds and program are read. -/
theorem createProgramAddress_bump (hbytes : seeds.mapM seedBytes = .ok bytes)
    (hkey : Pubkey.ofRaw program = .ok key) (hroom : LeavesRoom bytes) (bump : Nat) :
    createProgramAddress (seeds ++ [bumpSeed bump]) program =
      if OnCurveAt bytes key bump then .error ⟨.seed .onCurve, ""⟩
      else .ok (addressAt bytes key bump) := by
  rw [createProgramAddress_of_read hbytes, addressOfSeeds_bump hroom hkey]

/-- A try succeeds only on seeds and a program that are read, with room for the bump. -/
theorem read_of_createProgramAddress {bump : Nat} {address : Pubkey}
    (h : createProgramAddress (seeds ++ [bumpSeed bump]) program = .ok address) :
    ∃ bytes key, seeds.mapM seedBytes = .ok bytes ∧ Pubkey.ofRaw program = .ok key ∧
      LeavesRoom bytes := by
  have hall := h
  rw [createProgramAddress, bind_eq_ok_iff] at hall
  obtain ⟨_, hall, -⟩ := hall
  rw [List.mapM_append, bind_eq_ok_iff] at hall
  obtain ⟨bytes, hbytes, -⟩ := hall
  rw [createProgramAddress_of_read hbytes] at h
  refine ⟨bytes, ?_⟩
  by_cases hroom : LeavesRoom bytes
  · rw [addressOfSeeds, bind_eq_ok_iff] at h
    obtain ⟨_, -, h⟩ := h
    rw [bind_eq_ok_iff] at h
    obtain ⟨key, hkey, -⟩ := h
    exact ⟨key, hbytes, hkey, hroom⟩
  · obtain ⟨fault, herror⟩ := addressOfSeeds_bump_of_no_room hroom program bump
    rw [herror] at h
    cases h

/-! ## The loop -/

/-- The next bump is tried first. -/
theorem findFrom_succ (hroom : LeavesRoom bytes) (key : Pubkey) (n : Nat) :
    findFrom bytes key (List.range (n + 1)).reverse =
      if OnCurveAt bytes key n then findFrom bytes key (List.range n).reverse
      else .ok (addressAt bytes key n, n) := by
  have hkey : Pubkey.ofRaw (.key key) = .ok key := rfl
  rw [List.range_succ, List.reverse_append, List.reverse_singleton, List.singleton_append, findFrom,
    addressOfSeeds_bump hroom hkey]
  split_ifs <;> rfl

/-- **The loop ends at the highest bump whose address is not on the curve**, or after the last one. -/
theorem findFrom_cases (hroom : LeavesRoom bytes) (key : Pubkey) (n : Nat) :
    ((∀ b < n, OnCurveAt bytes key b) ∧
      findFrom bytes key (List.range n).reverse = .error ⟨.bumpExhausted key.toText, ""⟩) ∨
    ∃ bump < n, ¬ OnCurveAt bytes key bump ∧ (∀ b, bump < b → b < n → OnCurveAt bytes key b) ∧
      findFrom bytes key (List.range n).reverse = .ok (addressAt bytes key bump, bump) := by
  induction n with
  | zero => exact .inl ⟨by simp, rfl⟩
  | succ n ih =>
    rw [findFrom_succ hroom]
    by_cases hn : OnCurveAt bytes key n
    · rw [if_pos hn]
      have hbelow : ∀ b, b < n + 1 → b = n ∨ b < n := by omega
      rcases ih with ⟨hall, h⟩ | ⟨bump, hlt, hoff, habove, h⟩
      · refine .inl ⟨fun b hb => ?_, h⟩
        rcases hbelow b hb with rfl | hb
        · exact hn
        · exact hall b hb
      · refine .inr ⟨bump, by omega, hoff, fun b hbump hb => ?_, h⟩
        rcases hbelow b hb with rfl | hb
        · exact hn
        · exact habove b hbump hb
    · rw [if_neg hn]
      exact .inr ⟨n, by omega, hn, by omega, rfl⟩

/-! ## The whole search -/

/-- How a search ends, and on what input. -/
inductive SearchEnds (seeds : List RawKey) (program : RawKey) :
    Except Rejection (Pubkey × Nat) → Prop
  | badSeed {fault : SeedFault} (hseeds : ¬ AreSeeds seeds) :
    SearchEnds seeds program (.error ⟨.seed fault, ""⟩)
  | badProgram {fault : AddressFault} (hseeds : AreSeeds seeds)
    (hprogram : ∀ key, Pubkey.ofRaw program ≠ .ok key) :
    SearchEnds seeds program (.error ⟨.address fault, ""⟩)
  | noRoom {bytes : List Bytes} {key : Pubkey} {fault : SeedLengthFault}
    (hbytes : seeds.mapM seedBytes = .ok bytes) (hkey : Pubkey.ofRaw program = .ok key)
    (hroom : ¬ LeavesRoom bytes) : SearchEnds seeds program (.error ⟨.seedLength fault, ""⟩)
  | exhausted {bytes : List Bytes} {key : Pubkey} (hbytes : seeds.mapM seedBytes = .ok bytes)
    (hkey : Pubkey.ofRaw program = .ok key) (hroom : LeavesRoom bytes)
    (hall : ∀ b ≤ 255, OnCurveAt bytes key b) :
    SearchEnds seeds program (.error ⟨.bumpExhausted key.toText, ""⟩)
  | found {bytes : List Bytes} {key : Pubkey} {bump : Nat}
    (hbytes : seeds.mapM seedBytes = .ok bytes) (hkey : Pubkey.ofRaw program = .ok key)
    (hroom : LeavesRoom bytes) (hle : bump ≤ 255) (hoff : ¬ OnCurveAt bytes key bump)
    (habove : ∀ b, bump < b → b ≤ 255 → OnCurveAt bytes key b) :
    SearchEnds seeds program (.ok (addressAt bytes key bump, bump))

theorem findProgramAddress_of_read (hbytes : seeds.mapM seedBytes = .ok bytes)
    (hkey : Pubkey.ofRaw program = .ok key) :
    findProgramAddress seeds program = findFrom bytes key bumps := by
  rw [findProgramAddress, hbytes, hkey]
  rfl

/-- **Every search ends in one of these ways.** -/
theorem findProgramAddress_ends (seeds : List RawKey) (program : RawKey) :
    SearchEnds seeds program (findProgramAddress seeds program) := by
  rcases mapM_seedBytes_cases seeds with ⟨hseeds, bytes, hbytes⟩ | ⟨hseeds, fault, hfault⟩
  · cases hkey : Pubkey.ofRaw program with
    | error r =>
      obtain ⟨fault, rfl⟩ := Pubkey.cause_of_ofRaw hkey
      have hfind : findProgramAddress seeds program = .error ⟨.address fault, ""⟩ := by
        rw [findProgramAddress, hbytes, hkey]
        rfl
      exact hfind ▸ .badProgram hseeds fun key h => by simp [hkey] at h
    | ok key =>
      rw [findProgramAddress_of_read hbytes hkey]
      by_cases hroom : LeavesRoom bytes
      · rcases findFrom_cases hroom key 256 with ⟨hall, h⟩ | ⟨bump, hlt, hoff, habove, h⟩
        · exact h ▸ .exhausted hbytes hkey hroom fun b hb => hall b (by omega)
        · exact h ▸ .found hbytes hkey hroom (by omega) hoff fun b hbump hb => habove b hbump (by omega)
      · -- the first try fails already
        obtain ⟨fault, h⟩ := addressOfSeeds_bump_of_no_room hroom (.key key) 255
        have hfind : findFrom bytes key bumps = .error ⟨.seedLength fault, ""⟩ := by
          show findFrom bytes key (255 :: _) = _
          rw [findFrom, h]
        exact hfind ▸ .noRoom hbytes hkey hroom
  · have hfind : findProgramAddress seeds program = .error ⟨.seed fault, ""⟩ := by
      rw [findProgramAddress, hfault]
      rfl
    exact hfind ▸ .badSeed hseeds

/-- The name under which a search is rejected tells how it ended. -/
theorem SearchEnds.rejectedAs {x : Except Rejection (Pubkey × Nat)} (h : SearchEnds seeds program x) :
    (RejectedAs "InvalidSeedsError" x ↔ ¬ AreSeeds seeds) ∧
    (RejectedAs "InvalidAddressError" x ↔
      AreSeeds seeds ∧ ∀ key, Pubkey.ofRaw program ≠ .ok key) ∧
    (RejectedAs "MaxSeedLengthExceededError" x ↔
      ∃ bytes key, seeds.mapM seedBytes = .ok bytes ∧ Pubkey.ofRaw program = .ok key ∧
        ¬ LeavesRoom bytes) ∧
    (RejectedAs "BumpSeedExhaustedError" x ↔
      ∃ bytes key, seeds.mapM seedBytes = .ok bytes ∧ Pubkey.ofRaw program = .ok key ∧
        LeavesRoom bytes ∧ ∀ b ≤ 255, OnCurveAt bytes key b) := by
  cases h with
  | badSeed hseeds =>
    have hread : ∀ bytes, seeds.mapM seedBytes ≠ .ok bytes := fun _ h => hseeds (areSeeds_of_read h)
    simp [hseeds, hread, Rejection.kindName, Cause.kindName]
  | badProgram hseeds hprogram => simp [hseeds, hprogram, Rejection.kindName, Cause.kindName]
  | noRoom hbytes hkey hroom =>
    simp [areSeeds_of_read hbytes, hbytes, hkey, hroom, Rejection.kindName, Cause.kindName]
  | exhausted hbytes hkey hroom hall =>
    simpa [areSeeds_of_read hbytes, hbytes, hkey, hroom, Rejection.kindName, Cause.kindName] using hall
  | @found _ _ bump hbytes hkey hroom hle hoff habove =>
    have hnot : ∃ b, b ≤ 255 ∧ ¬ OnCurveAt _ _ b := ⟨bump, hle, hoff⟩
    simp [areSeeds_of_read hbytes, hbytes, hkey, hroom, hnot]

/-- A search that finds anything finds the highest bump whose address is not on the curve. -/
theorem findProgramAddress_eq_ok_iff {address : Pubkey} {bump : Nat} :
    findProgramAddress seeds program = .ok (address, bump) ↔
      ∃ bytes key, seeds.mapM seedBytes = .ok bytes ∧ Pubkey.ofRaw program = .ok key ∧
        LeavesRoom bytes ∧ bump ≤ 255 ∧ ¬ OnCurveAt bytes key bump ∧
        (∀ b, bump < b → b ≤ 255 → OnCurveAt bytes key b) ∧ address = addressAt bytes key bump := by
  constructor
  · intro h
    have hends := findProgramAddress_ends seeds program
    rw [h] at hends
    cases hends with
    | found hbytes hkey hroom hle hoff habove =>
      exact ⟨_, _, hbytes, hkey, hroom, hle, hoff, habove, rfl⟩
  · rintro ⟨bytes, key, hbytes, hkey, hroom, hle, hoff, habove, rfl⟩
    rw [findProgramAddress_of_read hbytes hkey]
    rcases findFrom_cases hroom key 256 with ⟨hall, -⟩ | ⟨found, hlt, hfound, hon, h⟩
    · exact absurd (hall bump (by omega)) hoff
    · -- neither of two such bumps is above the other
      rcases Nat.lt_trichotomy bump found with hbelow | rfl | hbelow
      · exact absurd (habove found hbelow (by omega)) hfound
      · exact h
      · exact absurd (hon bump hbelow (by omega)) hoff

/-- What a search reports, said by single tries and by what it is given. -/
structure SearchReports (seeds : List RawKey) (program : RawKey) : Prop where
  /-- The bump that is found is the highest one whose try succeeds. -/
  found_iff : ∀ address bump, findProgramAddress seeds program = .ok (address, bump) ↔
    bump ≤ 255 ∧ createProgramAddress (seeds ++ [bumpSeed bump]) program = .ok address ∧
      ∀ b, bump < b → b ≤ 255 →
        RejectedAs "InvalidSeedsError" (createProgramAddress (seeds ++ [bumpSeed b]) program)
  offCurve : ∀ address bump, findProgramAddress seeds program = .ok (address, bump) →
    isOnCurve address.bytes = .ok false
  /-- A digest on the curve is no reason for this rejection. -/
  seed_iff : RejectedAs "InvalidSeedsError" (findProgramAddress seeds program) ↔
    ∃ s ∈ seeds, ∃ v, s = .value v
  program_iff : RejectedAs "InvalidAddressError" (findProgramAddress seeds program) ↔
    (∀ s ∈ seeds, ∀ v, s ≠ .value v) ∧ ∀ key, Pubkey.ofRaw program ≠ .ok key
  length_iff : RejectedAs "MaxSeedLengthExceededError" (findProgramAddress seeds program) ↔
    (∀ s ∈ seeds, ∀ v, s ≠ .value v) ∧ (∃ key, Pubkey.ofRaw program = .ok key) ∧
      (255 ≤ seeds.length ∨ ∃ s ∈ seeds, ∃ bs, seedBytes s = .ok bs ∧ 32 < bs.length)
  /-- Exhaustion means that every digest that could be tried is on the curve. -/
  exhausted_iff : RejectedAs "BumpSeedExhaustedError" (findProgramAddress seeds program) ↔
    ∃ bytes key, seeds.mapM seedBytes = .ok bytes ∧ Pubkey.ofRaw program = .ok key ∧
      seeds.length < 255 ∧ (∀ bs ∈ bytes, bs.length ≤ 32) ∧
      ∀ b ≤ 255, isOnCurve (programDigest (bytes ++ [[UInt8.ofNat b]]) key) = .ok true
  /-- Nothing else can go wrong. -/
  answered : (∃ found, findProgramAddress seeds program = .ok found) ∨
    ∃ kind ∈ ["InvalidSeedsError", "InvalidAddressError", "MaxSeedLengthExceededError",
      "BumpSeedExhaustedError"], RejectedAs kind (findProgramAddress seeds program)

theorem onCurveAt_iff {bump : Nat} : OnCurveAt bytes key bump ↔
    isOnCurve (programDigest (bytes ++ [[UInt8.ofNat bump]]) key) = .ok true := by
  have h := isOnCurve_addressAt bytes key bump
  rw [show programDigest (bytes ++ [[UInt8.ofNat bump]]) key = (addressAt bytes key bump).bytes from rfl,
    h, Except.ok.injEq, decide_eq_true_iff]

/-- The tries say which bump is found. -/
theorem findProgramAddress_eq_ok_iff_tries {address : Pubkey} {bump : Nat} :
    findProgramAddress seeds program = .ok (address, bump) ↔
      bump ≤ 255 ∧ createProgramAddress (seeds ++ [bumpSeed bump]) program = .ok address ∧
        ∀ b, bump < b → b ≤ 255 →
          RejectedAs "InvalidSeedsError" (createProgramAddress (seeds ++ [bumpSeed b]) program) := by
  rw [findProgramAddress_eq_ok_iff]
  constructor
  · rintro ⟨bytes, key, hbytes, hkey, hroom, hle, hoff, habove, rfl⟩
    have htry := createProgramAddress_bump hbytes hkey hroom
    refine ⟨hle, by rw [htry, if_neg hoff], fun b hbump hb => ?_⟩
    rw [htry, if_pos (habove b hbump hb)]
    exact rejectedAs_error_iff.2 rfl
  · rintro ⟨hle, hcreate, habove⟩
    obtain ⟨bytes, key, hbytes, hkey, hroom⟩ := read_of_createProgramAddress hcreate
    have htry := createProgramAddress_bump hbytes hkey hroom
    rw [htry] at hcreate
    split_ifs at hcreate with hon
    · cases hcreate
      refine ⟨bytes, key, hbytes, hkey, hroom, hle, hon, fun b hbump hb => ?_, rfl⟩
      -- a try that is rejected has its address on the curve
      have hrejected := habove b hbump hb
      rw [htry] at hrejected
      split_ifs at hrejected with hb'
      · exact hb'
      · exact absurd hrejected (by simp)

/-- **The search finds the highest bump that a single try accepts**, never a point of the curve; and it
reports what is wrong with its input in one order, each fault under its own name, so that a digest on the
curve is never taken for a bad seed. -/
theorem search_finds_highest (seeds : List RawKey) (program : RawKey) :
    SearchReports seeds program := by
  have hends := findProgramAddress_ends seeds program
  obtain ⟨hseed, hprogram, hlength, hexhausted⟩ := hends.rejectedAs
  exact
    { found_iff := fun address bump => findProgramAddress_eq_ok_iff_tries
      offCurve := by
        intro address bump h
        obtain ⟨bytes, key, -, -, -, -, hoff, -, rfl⟩ := findProgramAddress_eq_ok_iff.1 h
        rw [isOnCurve_addressAt, decide_eq_false hoff]
      seed_iff := by
        rw [hseed]
        simp [AreSeeds]
      program_iff := hprogram
      length_iff := by
        rw [hlength]
        constructor
        · rintro ⟨bytes, key, hbytes, hkey, hroom⟩
          exact ⟨areSeeds_of_read hbytes, ⟨key, hkey⟩, (not_leavesRoom_iff hbytes).1 hroom⟩
        · rintro ⟨hseeds, ⟨key, hkey⟩, hlong⟩
          rcases mapM_seedBytes_cases seeds with ⟨-, bytes, hbytes⟩ | ⟨hnot, -⟩
          · exact ⟨bytes, key, hbytes, hkey, (not_leavesRoom_iff hbytes).2 hlong⟩
          · exact absurd hseeds hnot
      exhausted_iff := by
        rw [hexhausted]
        refine exists_congr fun bytes => exists_congr fun key => and_congr_right fun hbytes => ?_
        have hcount : seeds.length = bytes.length := (forall₂_of_mapM_ok hbytes).length_eq
        rw [LeavesRoom, hcount, and_assoc]
        simp only [onCurveAt_iff]
      answered := by
        clear hseed hprogram hlength hexhausted
        generalize findProgramAddress seeds program = ending at hends ⊢
        cases hends with
        | badSeed => exact .inr ⟨"InvalidSeedsError", by simp, rejectedAs_error_iff.2 rfl⟩
        | badProgram => exact .inr ⟨"InvalidAddressError", by simp, rejectedAs_error_iff.2 rfl⟩
        | noRoom => exact .inr ⟨"MaxSeedLengthExceededError", by simp, rejectedAs_error_iff.2 rfl⟩
        | exhausted => exact .inr ⟨"BumpSeedExhaustedError", by simp, rejectedAs_error_iff.2 rfl⟩
        | found => exact .inl ⟨_, rfl⟩ }

/-- The search without seeds skips one bump: that digest is on the curve. -/
theorem seedless_search_skips :
    let program : RawKey := .value (.str "ATokenGPvbdGVxr1b2hvZbsiqW5xWH25efTNsLJA8knL")
    ∃ address, findProgramAddress [] program = .ok (address, 254) ∧
      createProgramAddress [bumpSeed 254] program = .ok address ∧
      RejectedAs "InvalidSeedsError" (createProgramAddress [bumpSeed 255] program) ∧
      isOnCurve address.bytes = .ok false := by
  intro program
  have hbump : (findProgramAddress [] program).toOption.map (·.2) = some 254 := by decide +kernel
  have hreports := search_finds_highest [] program
  rcases hreports.answered with ⟨⟨address, bump⟩, h⟩ | ⟨_, -, _, h, -⟩
  · rw [h] at hbump
    obtain rfl : bump = 254 := Option.some.inj hbump
    obtain ⟨-, htry, habove⟩ := (hreports.found_iff address 254).1 h
    exact ⟨address, h, htry, habove 255 (by decide) (by decide), hreports.offCurve address 254 h⟩
  · rw [h] at hbump
    cases hbump

end CrossVenue
