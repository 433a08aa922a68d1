import CrossVenue.Number.Digits
import CrossVenue.Text.Basic

/-!
# Why a text is not read as JSON

A text that is no JSON has a flaw at a place.  The place is told by how many code points are left
there, so that a reader needs to know only what it has before it; a message tells it as a line, a
column in that line, and a number of code points before it.

* `lineAt_append`, `columnAt_append` : how lines and columns count on.
-/

set_option autoImplicit false

namespace CrossVenue.Json

/-- What is wrong with a text that is no JSON. -/
inductive Flaw
  | valueExpected
  | nameExpected
  | colonExpected
  | commaExpected
  | somethingFollows
  | openString
  | controlCharacter
  | unknownEscape
  | unknownUnit
  | byteOrderMark
deriving DecidableEq, Repr

/-- The flaw in words. -/
def Flaw.text : Flaw → Text
  | valueExpected => "Expecting value"
  | nameExpected => "Expecting property name enclosed in double quotes"
  | colonExpected => "Expecting ':' delimiter"
  | commaExpected => "Expecting ',' delimiter"
  | somethingFollows => "Extra data"
  | openString => "Unterminated string starting at"
  | controlCharacter => "Invalid control character at"
  | unknownEscape => "Invalid \\escape"
  | unknownUnit => "Invalid \\uXXXX escape"
  | byteOrderMark => "Unexpected UTF-8 BOM (decode using utf-8-sig)"

/-- Why a text is not read: a flaw, where so many code points are left, an integer of so many digits,
or too many lists and objects inside each other. -/
inductive Fault
  | malformed (flaw : Flaw) (left : Nat)
  | oversized (digits : Nat)
  | tooDeep
deriving DecidableEq, Repr

/-- The end of a line. -/
def lineFeed : CodePoint := '\n'

/-- The line in which code points end, counted from one. -/
def lineAt (before : List CodePoint) : Nat := before.count lineFeed + 1

/-- The column at which code points end, counted from one. -/
def columnAt (before : List CodePoint) : Nat :=
  (before.reverse.takeWhile (· ≠ lineFeed)).length + 1

/-- A place of a text in words. -/
def placeText (before : List CodePoint) : Text :=
  s!"line {lineAt before} column {columnAt before} (char {before.length})"

/-- Why a text is not read, in words. -/
def Fault.text (whole : Text) : Fault → Text
  | malformed flaw left =>
    flaw.text ++ ": " ++ placeText (whole.toList.take (whole.length - left))
  | oversized digits =>
    s!"Exceeds the limit ({Number.maxDigits} digits) for integer string conversion: value has " ++
      s!"{digits} digits; use sys.set_int_max_str_digits() to increase the limit"
  | tooDeep => "maximum recursion depth exceeded while decoding a JSON document"

theorem lineAt_append (before more : List CodePoint) :
    lineAt (before ++ more) = lineAt before + more.count lineFeed := by
  simp only [lineAt, List.count_append]
  omega

theorem columnAt_append {more : List CodePoint} (before : List CodePoint) (h : lineFeed ∉ more) :
    columnAt (before ++ more) = columnAt before + more.length := by
  have hm : ∀ p ∈ more.reverse, decide (p ≠ lineFeed) = true := by
    intro p hp
    simp only [decide_eq_true_eq]
    rintro rfl
    exact h (List.mem_reverse.1 hp)
  simp only [columnAt, List.reverse_append, List.takeWhile_append_of_pos hm, List.length_append,
    List.length_reverse]
  omega

end CrossVenue.Json
