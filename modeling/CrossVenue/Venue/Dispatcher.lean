import CrossVenue.Text.Casing
import CrossVenue.Venue.Composer

/-!
# Dispatching to venues

Composers are registered under their name and their qualified name, in small letters; a later
registration takes over the names that it shares with earlier ones.  Looking up trims blanks and
ignores case.

* `register_lookup` : what a key stands for after a registration.
-/

set_option autoImplicit false

namespace CrossVenue

/-- A composer with the number of its registration, by which registrations are told apart. -/
structure Registered where
  serial : Nat
  composer : Composer

/-- The registered composers by key, in the order in which keys were first used. -/
structure Dispatcher where
  entries : Table Registered
  count : Nat

namespace Dispatcher

/-- The dispatcher without composers. -/
def empty : Dispatcher := ⟨[], 0⟩

/-- The key of a composer's name. -/
def nameKey (c : Composer) : Text := Text.lower c.name

/-- The key of a composer's qualified name. -/
def qualifiedKey (c : Composer) : Text := Text.lower c.qualifiedName

/-- The key that a name is looked up under. -/
def lookupKey (name : Text) : Text := Text.lower name.trimmed

/-- The dispatcher with a composer registered under both its names. -/
def register (d : Dispatcher) (c : Composer) : Dispatcher :=
  let entry : Registered := ⟨d.count, c⟩
  ⟨(d.entries.set (nameKey c) entry).set (qualifiedKey c) entry, d.count + 1⟩

/-- The dispatcher of the venues of a registry; a budget that is null is the registry's. -/
def ofRegistry (r : Registry) (budget : Json) : Dispatcher :=
  ((empty.register (.raydium r budget)).register (.astroport r)).register (.uniswap r)

/-- The registrations of a list, each at its first occurrence. -/
def distinct (entries : List Registered) : List Registered :=
  entries.foldl (fun seen e => if seen.any (·.serial == e.serial) then seen else seen ++ [e]) []

/-- The composers that can be reached, each once. -/
def composers (d : Dispatcher) : List Composer :=
  (distinct d.entries.values).map (·.composer)

/-- The composer of a name. -/
def composer? (d : Dispatcher) (name : Text) : Option Composer :=
  (d.entries.lookup (lookupKey name)).map (·.composer)

/-- The composer of a name, or a rejection that lists the qualified names. -/
def composer (d : Dispatcher) (name : Text) : Except Rejection Composer :=
  match d.composer? name with
  | some c => .ok c
  | none => reject (.venue (.unsupported name (d.composers.map Composer.qualifiedName)))

/-- The instructions of a swap on the venue that it names. -/
def composeSwap (room : Room) (d : Dispatcher) (swap : Swap) : Attempt (List PlaneInstruction) := do
  let c ← (d.composer swap.venue : Except Rejection Composer)
  c.composeSwap room swap

theorem register_lookup (d : Dispatcher) (c : Composer) (key : Text) :
    (d.register c).entries.lookup key =
      if key = nameKey c ∨ key = qualifiedKey c then some ⟨d.count, c⟩ else d.entries.lookup key := by
  simp only [register, Table.set_lookup]
  by_cases h : key = qualifiedKey c
  · simp [h]
  · by_cases h' : key = nameKey c <;> simp [h, h']

end Dispatcher

end CrossVenue
