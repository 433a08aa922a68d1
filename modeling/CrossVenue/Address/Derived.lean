import CrossVenue.Address.Pubkey
import CrossVenue.Curve.Edwards25519
import CrossVenue.Hash.Keccak256
import CrossVenue.Hash.Sha256

/-!
# Derived addresses

The address of seeds and a program is the digest of both and a fixed marker.  It is good only if it is
no point of the curve, so that nobody can hold a private key for it.  The search appends a bump seed,
from 255 down, until the address is good.

* `offCurveAddress_offCurve` : a derived address is never on the curve;
* `findFrom_mem` : the bump that is found is one that was tried.
-/

set_option autoImplicit false

namespace CrossVenue

/-- How many seeds there may be. -/
def maxSeeds : Nat := 255

/-- How many bytes a seed may have. -/
def maxSeedLength : Nat := 32

/-- The bytes that end the digested text. -/
def programAddressMarker : Bytes := "ProgramDerivedAddress".toList.map fun c => UInt8.ofNat c.toNat

/-- Do the bytes of a curve point decompress? -/
def isOnCurve (bs : Bytes) : Except Rejection Bool :=
  if bs.length = Pubkey.size then .ok (Edwards25519.decompresses bs)
  else reject (.address (.curvePointLength Pubkey.size bs.length))

/-- The bytes of a seed, which has to be bytes or a key. -/
def seedBytes : RawKey → Except Rejection Bytes
  | .key k => .ok k.bytes
  | .bytes bs => .ok bs
  | .value v => reject (.seed (.wrongKind v.kindName))

/-- Rejects the first seed that is too long. -/
def requireShortSeeds (seeds : List Bytes) : Except Rejection Unit :=
  match seeds.find? fun s => maxSeedLength < s.length with
  | some s => reject (.seedLength (.tooLong maxSeedLength s.length))
  | none => .ok ()

/-- Rejects seeds that are too many or too long. -/
def requireSeeds (seeds : List Bytes) : Except Rejection Unit :=
  if maxSeeds < seeds.length then reject (.seedLength (.tooMany maxSeeds seeds.length))
  else requireShortSeeds seeds

/-- The digest of seeds and program, before it is known whether it is good. -/
def programDigest (seeds : List Bytes) (program : Pubkey) : Bytes :=
  Sha256.digest (seeds.flatten ++ program.bytes ++ programAddressMarker)

theorem programDigest_length (seeds : List Bytes) (program : Pubkey) :
    (programDigest seeds program).length = 32 := Sha256.digest_length _

/-- The address of seeds and a program, unless it is on the curve. -/
def offCurveAddress (seeds : List Bytes) (program : Pubkey) : Except Rejection Pubkey :=
  if Edwards25519.decompresses (programDigest seeds program) then reject (.seed .onCurve)
  else .ok ⟨programDigest seeds program, programDigest_length seeds program⟩

/-- The address of seeds that are known to be bytes, and of whatever is given as the program. -/
def addressOfSeeds (seeds : List Bytes) (program : RawKey) : Except Rejection Pubkey := do
  requireSeeds seeds
  offCurveAddress seeds (← Pubkey.ofRaw program)

/-- The address of seeds and a program. -/
def createProgramAddress (seeds : List RawKey) (program : RawKey) : Except Rejection Pubkey := do
  addressOfSeeds (← seeds.mapM seedBytes) program

/-- Tries the bumps in order and gives the first good address. -/
def findFrom (seeds : List Bytes) (program : Pubkey) :
    List Nat → Except Rejection (Pubkey × Nat)
  | [] => reject (.bumpExhausted program.toText)
  | bump :: rest =>
    match addressOfSeeds (seeds ++ [[UInt8.ofNat bump]]) (.key program) with
    | .ok address => .ok (address, bump)
    | .error ⟨.seed _, _⟩ => findFrom seeds program rest
    | .error r => .error r

/-- The bumps in the order in which they are tried. -/
def bumps : List Nat := (List.range 256).reverse

/-- The first good address of seeds and a program, with its bump. -/
def findProgramAddress (seeds : List RawKey) (program : RawKey) :
    Except Rejection (Pubkey × Nat) := do
  let bytes ← seeds.mapM seedBytes
  let key ← Pubkey.ofRaw program
  findFrom bytes key bumps

/-- The account that holds an owner's tokens of a mint. -/
def associatedTokenAddress (owner mint tokenProgram ataProgram : RawKey) :
    Except Rejection Pubkey := do
  let owner ← Pubkey.ofRaw owner
  let tokenProgram ← Pubkey.ofRaw tokenProgram
  let mint ← Pubkey.ofRaw mint
  let (address, _) ← findProgramAddress [.key owner, .key tokenProgram, .key mint] ataProgram
  .ok address

/-- The account that is linked to an address of the COSMOS plane. -/
def cosmosAccount (address : Bytes) : Except Rejection Pubkey :=
  if address = [] then reject (.address .emptyCosmosAddress)
  else .ok ⟨Keccak256.digest address, Keccak256.digest_length address⟩

theorem offCurveAddress_offCurve {seeds : List Bytes} {program address : Pubkey}
    (h : offCurveAddress seeds program = .ok address) :
    Edwards25519.decompresses address.bytes = false := by
  unfold offCurveAddress reject at h
  split at h
  · cases h
  · rename_i hd
    injection h with h
    subst h
    simpa using hd

theorem findFrom_mem {seeds : List Bytes} {program address : Pubkey} {tried : List Nat} {bump : Nat}
    (h : findFrom seeds program tried = .ok (address, bump)) : bump ∈ tried := by
  induction tried with
  | nil => cases h
  | cons b rest ih =>
    unfold findFrom at h
    split at h
    · injection h with h
      injection h with _ h
      exact h ▸ List.mem_cons_self
    · exact List.mem_cons_of_mem _ (ih h)
    · cases h

end CrossVenue
