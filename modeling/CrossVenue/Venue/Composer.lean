import CrossVenue.Venue.Astroport
import CrossVenue.Venue.Raydium
import CrossVenue.Venue.Uniswap

/-!
# Composers

A composer speaks for one venue of one registry: it quotes the venue's pools and encodes swaps for the
plane that executes them.  What a venue cannot quote from is a breakdown.  Venues of other kinds can be
registered beside the three that are known here.
-/

set_option autoImplicit false

namespace CrossVenue

/-- A venue of another kind: what it is called, and what it does. -/
structure OtherVenue where
  registry : Registry
  kindName : Text
  name : Text
  plane : Plane
  composeSwap : Room → Swap → Attempt (List PlaneInstruction)
  poolOfResponse : Room → Json → Attempt Pool
  poolOfRecords : Room → Json → Attempt Pool
  poolOfReserves : Text → Int → Int → Attempt Pool

/-- A venue of a registry. -/
inductive Composer
  | raydium (registry : Registry) (budget : Json)
  | astroport (registry : Registry)
  | uniswap (registry : Registry)
  | other (venue : OtherVenue)

namespace Composer

/-- The registry of a composer. -/
def registry : Composer → Registry
  | raydium r _ => r
  | astroport r => r
  | uniswap r => r
  | other v => v.registry

/-- The name that the registry gives to the venue. -/
def name : Composer → Text
  | raydium r _ => r.raydium.name
  | astroport r => r.astroport.name
  | uniswap r => r.uniswap.name
  | other v => v.name

/-- The plane that executes swaps. -/
def plane : Composer → Plane
  | raydium _ _ => .svm
  | astroport _ => .wasm
  | uniswap _ => .evm
  | other v => v.plane

/-- The name of the kind of venue. -/
def kindName : Composer → Text
  | raydium _ _ => "RaydiumVenue"
  | astroport _ => "AstroportVenue"
  | uniswap _ => "UniswapVenue"
  | other v => v.kindName

/-- The name, led by the plane. -/
def qualifiedName (c : Composer) : Text := c.plane.smallName ++ " " ++ c.name

/-- The composer in words. -/
def shown (c : Composer) : Text :=
  c.kindName ++ "(dex_name=" ++ Text.quoted c.name ++ ", plane=" ++ c.plane.name ++ ")"

/-- The instructions that execute a swap. -/
def composeSwap (room : Room) : Composer → Swap → Attempt (List PlaneInstruction)
  | raydium r budget, swap => Raydium.composeSwap room r budget swap
  | astroport r, swap => Astroport.composeSwap room r swap
  | uniswap r, swap => Uniswap.composeSwap room r swap
  | other v, swap => v.composeSwap room swap

/-- The pool of the answer to a pool query. -/
def poolOfResponse (room : Room) : Composer → Json → Attempt Pool
  | astroport r, response => Astroport.poolOfResponse room r response
  | other v, response => v.poolOfResponse room response
  | _, _ => breakDown .unsupported

/-- The pool of account records. -/
def poolOfRecords (room : Room) : Composer → Json → Attempt Pool
  | raydium r _, records => Raydium.poolOfRecords room r records
  | other v, records => v.poolOfRecords room records
  | _, _ => breakDown .unsupported

/-- The pool of a pair with given reserves. -/
def poolOfReserves : Composer → Text → Int → Int → Attempt Pool
  | uniswap r, pair, a, b => (Uniswap.poolOfReserves r pair a b : Except Rejection Pool)
  | other v, pair, a, b => v.poolOfReserves pair a b
  | _, _, _, _ => breakDown .unsupported

end Composer

end CrossVenue
