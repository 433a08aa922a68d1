import CrossVenue.Number.Binary64
import CrossVenue.Table

/-!
# JSON values

Integers and floating-point numbers are told apart, and an object keeps its fields in order; a value
that is no object has no fields.  `isText_iff` says which value is a given text.  Values may be nested as
deep as one likes; reading and writing them takes room.
-/

set_option autoImplicit false

namespace CrossVenue

/-- A JSON value. -/
inductive Json
  | null
  | bool (b : Bool)
  | int (n : Int)
  | float (x : Binary64)
  | str (s : Text)
  | arr (items : List Json)
  | obj (fields : List (Text × Json))
deriving BEq, Repr, Inhabited

namespace Json

/-- The fields of an object in order. -/
abbrev Fields := Table Json

/-- The field of an object; `none` when it is absent or the value is no object. -/
def field? : Json → Text → Option Json
  | .obj fields, name => fields.lookup name
  | _, _ => none

/-- Is the value this text? -/
def isText (v : Json) (s : Text) : Bool :=
  match v with
  | .str t => t == s
  | _ => false

/-- Does a value count as true?  Null, zero and what is empty do not. -/
def isTrue : Json → Bool
  | .null => false
  | .bool b => b
  | .int n => n ≠ 0
  | .float x => x.order? 0 ≠ some .eq
  | .str s => !s.isEmpty
  | .arr items => !items.isEmpty
  | .obj fields => !fields.isEmpty

/-- The parts of a value in order: items, code points as texts, or names of fields. -/
def parts? : Json → Option (List Json)
  | .arr items => some items
  | .str s => some (s.toList.map fun p => .str ⟨[p]⟩)
  | .obj fields => some (fields.map fun p => .str p.1)
  | _ => none

/-- A list of texts. -/
def strings (xs : List Text) : Json := .arr (xs.map .str)

/-- The text, or null. -/
def ofText? : Option Text → Json
  | some s => .str s
  | none => .null

theorem isText_iff {v : Json} {s : Text} : v.isText s = true ↔ v = .str s := by
  cases v <;> simp [isText]

end Json

/-- How many lists and objects can be opened inside each other before the stack is full.  That depends on
who calls, but there is always room for the messages of the venues, which are six levels deep at most. -/
structure Room where
  levels : Nat
  ample : 6 ≤ levels
deriving DecidableEq, Repr

/-- The room that there always is. -/
def Room.least : Room := ⟨6, Nat.le_refl 6⟩

end CrossVenue
