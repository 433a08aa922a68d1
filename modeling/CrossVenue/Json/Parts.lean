import CrossVenue.Json.Value
import CrossVenue.Number.Digits

/-!
# What holds of all parts of a value

A test is put to a value, to everything inside it, and to the names of fields as texts.

* `isFinite` : all numbers are finite;
* `isWritable` : all integers are short enough to be written;
* `isPlain` : all texts are plain.
-/

set_option autoImplicit false

namespace CrossVenue.Json

mutual

/-- Do a value and all its parts pass a test? -/
def every (test : Json → Bool) : Json → Bool
  | .arr items => test (.arr items) && everyItem test items
  | .obj fields => test (.obj fields) && everyField test fields
  | v => test v

/-- Do items and all their parts pass a test? -/
def everyItem (test : Json → Bool) : List Json → Bool
  | [] => true
  | v :: rest => every test v && everyItem test rest

/-- Do the names and the values of fields, and all parts of the values, pass a test? -/
def everyField (test : Json → Bool) : List (Text × Json) → Bool
  | [] => true
  | (name, v) :: rest => test (.str name) && every test v && everyField test rest

end

/-- Are all numbers finite? -/
def isFinite : Json → Bool :=
  every fun
    | .float x => x.truncate?.isSome
    | _ => true

/-- Can all integers be written? -/
def isWritable : Json → Bool :=
  every fun
    | .int n => Number.isWritable n
    | _ => true

/-- Are all texts plain? -/
def isPlain : Json → Bool :=
  every fun
    | .str s => s.isPlain
    | _ => true

end CrossVenue.Json
