import CrossVenue.Number.Digits
import CrossVenue.Text.Blank
import CrossVenue.Text.Digit

/-!
# Integer numerals

A numeral is a run of digits in which a single underscore may separate two digits, with an optional
sign in front and white space around.  The digits may be those of any script.
`grouped?_length_le` says that no digit is invented.
-/

set_option autoImplicit false

namespace CrossVenue.Text

/-- The values of a run of digits, with single underscores between digits. -/
def grouped? (value? : Char → Option Nat) : List Char → Option (List Nat)
  | [] => none
  | [c] => (value? c).map ([·])
  | c :: d :: cs =>
    match value? c with
    | none => none
    | some v =>
      if d = '_' then (grouped? value? cs).map (v :: ·) else (grouped? value? (d :: cs)).map (v :: ·)

/-- The number that decimal digit values spell. -/
def decimalValue (ds : List Nat) : Nat := ds.foldl (fun n d => 10 * n + d) 0

/-- The number that ASCII digits spell. -/
def digitsValue (cs : List Char) : Nat := cs.foldl (fun n c => 10 * n + (c.toNat - 48)) 0

/-- Splits off an optional sign: is it a minus, and what follows. -/
def splitSign : List Char → Bool × List Char
  | '-' :: cs => (true, cs)
  | '+' :: cs => (false, cs)
  | cs => (false, cs)

/-- The integer of a magnitude and a sign. -/
def withSign (negative : Bool) (n : Nat) : Int := if negative then -(n : Int) else n

/-- The integer that characters spell in the digits of any script. -/
def readIntegerChars? (cs : List Char) : Option Int :=
  let (negative, cs) := splitSign (trim isWhiteSpace cs)
  match grouped? digitValue? cs with
  | some ds =>
    if ds.length ≤ Number.maxDigits then some (withSign negative (decimalValue ds)) else none
  | none => none

/-- The integer that a text spells in the digits of any script. -/
def readInteger? (t : Text) : Option Int := t.chars?.bind readIntegerChars?

theorem grouped?_length_le {value? : Char → Option Nat} {cs : List Char} {ds : List Nat}
    (h : grouped? value? cs = some ds) : ds.length ≤ cs.length := by
  fun_induction grouped? value? cs generalizing ds with
  | case1 => cases h
  | case2 c =>
    obtain ⟨v, _, rfl⟩ := Option.map_eq_some_iff.1 h
    simp
  | case3 => cases h
  | case4 c cs v _ ih =>
    obtain ⟨t, ht, rfl⟩ := Option.map_eq_some_iff.1 h
    have := ih ht
    simp; omega
  | case5 c d cs v _ _ ih =>
    obtain ⟨t, ht, rfl⟩ := Option.map_eq_some_iff.1 h
    have := ih ht
    simp at this ⊢; omega

end CrossVenue.Text
