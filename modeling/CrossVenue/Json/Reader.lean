import CrossVenue.Encoding.Hex
import CrossVenue.Json.Fault
import CrossVenue.Json.Value
import CrossVenue.Text.Numeral
import CrossVenue.Text.Units

/-!
# Reading JSON text

The standard grammar, with `NaN`, `Infinity` and `-Infinity` as numbers besides.  Nothing may follow
the value but blanks, a byte order mark is refused, and of two fields with one name the later value
stands in the earlier place.  Of two escaped units that are a pair one character is made; an escaped
unit without its other half is kept as it is.  An integer of more than `Number.maxDigits` digits and
lists or objects for which the stack has no room are refused by themselves, because they are answered
differently from text that is no JSON.

The readers of values recurse on a count that starts above twice the length of the text: each
nested value takes at most two steps and shortens the text.
-/

set_option autoImplicit false

namespace CrossVenue.Json

/-- A reader gives what it read and the code points after it. -/
abbrev Step (α : Type) := Except Fault (α × List CodePoint)

/-- A blank between tokens. -/
def isGap (p : CodePoint) : Bool := p = ' ' || p = '\t' || p = '\n' || p = '\r'

/-- The code points after leading blanks. -/
def skipGaps (ps : List CodePoint) : List CodePoint := ps.dropWhile isGap

/-- What a string holds at a place: a code point, or a 16-bit unit that was escaped. -/
inductive StringItem
  | point (p : CodePoint)
  | unit (n : Nat)
deriving DecidableEq, Repr

/-- The value of a hexadecimal digit. -/
def hexValue? (p : CodePoint) : Option Nat := p.char?.bind Hex.value?

/-- The number of four hexadecimal digits. -/
def unit? (a b c d : CodePoint) : Option Nat :=
  match hexValue? a, hexValue? b, hexValue? c, hexValue? d with
  | some x, some y, some z, some w => some (((x * 16 + y) * 16 + z) * 16 + w)
  | _, _, _, _ => none

/-- The character of a one-letter escape. -/
def simpleEscape? (p : CodePoint) : Option Char :=
  if p = '\"' then some '\"'
  else if p = '\\' then some '\\'
  else if p = '/' then some '/'
  else if p = 'b' then some '\x08'
  else if p = 'f' then some '\x0c'
  else if p = 'n' then some '\n'
  else if p = 'r' then some '\r'
  else if p = 't' then some '\t'
  else none

/-- A flaw where some code points are left. -/
def flawAt {α : Type} (flaw : Flaw) (left : List CodePoint) : Except Fault α :=
  .error (.malformed flaw left.length)

/-- What a string holds up to its closing quote.  An escaped unit that nothing follows counts as cut
off. -/
def itemsUntilQuote : List CodePoint → Step (List StringItem)
  | [] => flawAt .openString []
  | p :: ps =>
    if p = '\"' then .ok ([], ps)
    else if p = '\\' then
      match ps with
      | [] => flawAt .openString []
      | e :: es =>
        if e = 'u' then
          match es with
          | h1 :: h2 :: h3 :: h4 :: rest =>
            if rest.isEmpty then flawAt .unknownUnit (e :: es)
            else
              match unit? h1 h2 h3 h4 with
              | some n => (itemsUntilQuote rest).map fun r => (.unit n :: r.1, r.2)
              | none => flawAt .unknownUnit (e :: es)
          | _ => flawAt .unknownUnit (e :: es)
        else
          match simpleEscape? e with
          | some c => (itemsUntilQuote es).map fun r => (.point c :: r.1, r.2)
          | none => flawAt .unknownEscape (p :: ps)
    else if p.toNat < 0x20 then flawAt .controlCharacter (p :: ps)
    else (itemsUntilQuote ps).map fun r => (.point p :: r.1, r.2)

/-- The code points of a string's items, two units of a pair being one character. -/
def joinItems : List StringItem → List CodePoint
  | [] => []
  | [.point p] => [p]
  | [.unit n] => [.ofNat n]
  | .unit n :: .unit m :: rest =>
    if Text.Units.isHigh n && Text.Units.isLow m then Text.Units.joined n m :: joinItems rest
    else .ofNat n :: joinItems (.unit m :: rest)
  | .unit n :: .point p :: rest => .ofNat n :: joinItems (.point p :: rest)
  | .point p :: i :: rest => p :: joinItems (i :: rest)

/-- The text after its opening quote; that it does not end is a flaw at the quote. -/
def readText (ps : List CodePoint) : Step Text :=
  match itemsUntilQuote ps with
  | .ok r => .ok (⟨joinItems r.1⟩, r.2)
  | .error (.malformed .openString _) => .error (.malformed .openString (ps.length + 1))
  | .error fault => .error fault

/-- The leading ASCII digits and the rest. -/
def spanDigits : List CodePoint → List Char × List CodePoint
  | .char c :: rest =>
    if c.isDigit then
      let (ds, after) := spanDigits rest
      (c :: ds, after)
    else ([], .char c :: rest)
  | ps => ([], ps)

/-- The digits after a point and the rest, if there are any. -/
def readFraction (ps : List CodePoint) : List Char × List CodePoint :=
  match ps with
  | .char '.' :: rest =>
    let (ds, after) := spanDigits rest
    if ds.isEmpty then ([], ps) else (ds, after)
  | _ => ([], ps)

/-- Splits off an optional sign: is it a minus, and what follows. -/
def readSign : List CodePoint → Bool × List CodePoint
  | .char '-' :: ps => (true, ps)
  | .char '+' :: ps => (false, ps)
  | ps => (false, ps)

/-- The exponent and the rest, if there is one. -/
def readExponent (ps : List CodePoint) : Option Int × List CodePoint :=
  match ps with
  | e :: rest =>
    if e = 'e' ∨ e = 'E' then
      let (negative, tail) := readSign rest
      let (ds, after) := spanDigits tail
      if ds.isEmpty then (none, ps) else (some (Text.withSign negative (Text.digitsValue ds)), after)
    else (none, ps)
  | [] => (none, ps)

/-- The number that begins with the given whole digits. -/
def readNumberTail (negative : Bool) (whole : List Char) (rest : List CodePoint) : Step Json :=
  let (fraction, rest) := readFraction rest
  let (exponent, rest) := readExponent rest
  if fraction.isEmpty && exponent.isNone then
    if whole.length ≤ Number.maxDigits then
      .ok (.int (Text.withSign negative (Text.digitsValue whole)), rest)
    else .error (.oversized whole.length)
  else
    let value := Binary64.ofDecimal negative (Text.digitsValue (whole ++ fraction))
      (exponent.getD 0 - fraction.length)
    .ok (.float value, rest)

/-- The number after its sign, with the code points from the sign on; a leading zero stands alone. -/
def readNumber (all : List CodePoint) (negative : Bool) (ps : List CodePoint) : Step Json :=
  match ps with
  | .char '0' :: rest => readNumberTail negative ['0'] rest
  | _ =>
    let (whole, rest) := spanDigits ps
    if whole.isEmpty then flawAt .valueExpected all else readNumberTail negative whole rest

/-- The values that are written as words. -/
def words : List (String × Json) := [
  ("null", .null), ("true", .bool true), ("false", .bool false), ("NaN", .float .undefined),
  ("Infinity", .float (.infinite false)), ("-Infinity", .float (.infinite true))
]

/-- The code points after a word, if they begin with it. -/
def after? : List Char → List CodePoint → Option (List CodePoint)
  | [], ps => some ps
  | _ :: _, [] => none
  | c :: cs, p :: ps => if p = c then after? cs ps else none

/-- The value of the word that the code points begin with. -/
def readWord? (ps : List CodePoint) : Option (Json × List CodePoint) :=
  words.findSome? fun w => (after? w.1.toList ps).map fun rest => (w.2, rest)

/-- A word or a number. -/
def readScalar (ps : List CodePoint) : Step Json :=
  match readWord? ps with
  | some r => .ok r
  | none =>
    match ps with
    | .char '-' :: rest => readNumber ps true rest
    | _ => readNumber ps false ps

mutual

/-- The value at the start of the code points, with room for so many levels inside each other. -/
def readValue : Nat → Nat → List CodePoint → Step Json
  | 0, _, ps => flawAt .valueExpected ps
  | fuel + 1, room, ps =>
    match ps with
    | [] => flawAt .valueExpected ps
    | p :: rest =>
      if p = '\"' then (readText rest).map fun r => (.str r.1, r.2)
      else if p = '[' then
        match room with
        | 0 => .error .tooDeep
        | room + 1 =>
          match skipGaps rest with
          | .char ']' :: after => .ok (.arr [], after)
          | items => (readItems fuel room items).map fun r => (.arr r.1, r.2)
      else if p = '\x7b' then
        match room with
        | 0 => .error .tooDeep
        | room + 1 =>
          match skipGaps rest with
          | .char '\x7d' :: after => .ok (.obj [], after)
          | fields => (readFields fuel room [] fields).map fun r => (.obj r.1, r.2)
      else readScalar (p :: rest)

/-- The items up to the closing bracket. -/
def readItems : Nat → Nat → List CodePoint → Step (List Json)
  | 0, _, ps => flawAt .valueExpected ps
  | fuel + 1, room, ps =>
    match readValue fuel room ps with
    | .error e => .error e
    | .ok (v, rest) =>
      match skipGaps rest with
      | .char ',' :: more => (readItems fuel room (skipGaps more)).map fun r => (v :: r.1, r.2)
      | .char ']' :: after => .ok ([v], after)
      | left => flawAt .commaExpected left

/-- The fields up to the closing brace, added to those read before. -/
def readFields : Nat → Nat → Fields → List CodePoint → Step Fields
  | 0, _, _, ps => flawAt .nameExpected ps
  | fuel + 1, room, before, ps =>
    match readField fuel room ps with
    | .error e => .error e
    | .ok ((name, v), rest) =>
      match skipGaps rest with
      | .char ',' :: more => readFields fuel room (before.set name v) (skipGaps more)
      | .char '\x7d' :: after => .ok (before.set name v, after)
      | left => flawAt .commaExpected left

/-- A name, a colon and a value. -/
def readField : Nat → Nat → List CodePoint → Step (Text × Json)
  | 0, _, ps => flawAt .nameExpected ps
  | fuel + 1, room, ps =>
    match ps with
    | .char '\"' :: rest =>
      match readText rest with
      | .error e => .error e
      | .ok (name, rest) =>
        match skipGaps rest with
        | .char ':' :: rest => (readValue fuel room (skipGaps rest)).map fun r => ((name, r.1), r.2)
        | left => flawAt .colonExpected left
    | _ => flawAt .nameExpected ps

end

/-- The value of the code points, which may stand between blanks. -/
def readPoints (room : Room) (ps : List CodePoint) : Except Fault Json := do
  let start := skipGaps ps
  let (v, rest) ← readValue (2 * start.length + 2) room.levels start
  let left := skipGaps rest
  if left.isEmpty then .ok v else flawAt .somethingFollows left

/-- The mark that some encodings put in front of a text. -/
def byteOrderMark : CodePoint := '\uFEFF'

/-- The value of a text, in front of which no byte order mark may stand. -/
def read (room : Room) (t : Text) : Except Fault Json :=
  if t.toList.head? = some byteOrderMark then flawAt .byteOrderMark t.toList
  else readPoints room t.toList

end CrossVenue.Json
