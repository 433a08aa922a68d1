import CrossVenue.Json.Value
import CrossVenue.Number.Shortest
import CrossVenue.Text.Quoted
import CrossVenue.Text.Sentence

/-!
# How messages show a value

Messages name the kind of a value and show values in a notation of their own: `None`, `True` and
`False`, quoted text, and a blank after every comma and colon.  A value is shown piece by piece, since an
integer in a list or an object may be as hard to write as one that stands by itself.  Nesting is not
bounded here: values that are shown have been read before, with room for all their levels.
-/

set_option autoImplicit false

namespace CrossVenue.Json

/-- The name of a value's kind in messages. -/
def kindName : Json → String
  | .null => "NoneType"
  | .bool _ => "bool"
  | .int _ => "int"
  | .float _ => "float"
  | .str _ => "str"
  | .arr _ => "list"
  | .obj _ => "dict"

mutual

/-- The value with its text in quotes. -/
def shown : Json → Sentence
  | .null => ["None"]
  | .bool true => ["True"]
  | .bool false => ["False"]
  | .int n => [n]
  | .float x => [x.text "inf" "nan"]
  | .str s => [Text.quoted s]
  | .arr items => Sentence.join ["[", shownItems items, "]"]
  | .obj fields => Sentence.join ["\x7b", shownFields fields, "\x7d"]

/-- The items with commas between. -/
def shownItems : List Json → Sentence
  | [] => []
  | [v] => shown v
  | v :: w :: rest => Sentence.join [shown v, ", ", shownItems (w :: rest)]

/-- The fields with commas between. -/
def shownFields : List (Text × Json) → Sentence
  | [] => []
  | [(k, v)] => Sentence.join [Text.quoted k, ": ", shown v]
  | (k, v) :: p :: rest =>
    Sentence.join [Text.quoted k, ": ", shown v, ", ", shownFields (p :: rest)]

end

/-- The value as part of a sentence: a text stands without quotes. -/
def inSentence : Json → Sentence
  | .str s => [s]
  | v => v.shown

end CrossVenue.Json
