import CrossVenue.Text.Numeral

/-!
# Integers as text

Characters that should spell an integer are tidied up in steps: white space around them, one sign,
zeros in front, a fraction of zeros, and underscores between digits are taken away, in this order.
What is left has to be a plain numeral, which is `0` or begins with another digit, after a minus or
none.  Zeros in front may be mixed with underscores, and what they leave may begin with a minus too.

A numeral of too many digits is no integer.  It is told apart from other characters only where its
digits come first, after a minus or none, before anything is tidied up.  The minus is not counted: before
as many digits as an integer may have it makes a numeral that is read.

* `plainMagnitude_zero` : zero is the only plain numeral that begins with a zero;
* `readNumeral_oversized` : what is told apart.
-/

set_option autoImplicit false

namespace CrossVenue.Schema

/-- Why characters do not spell an integer. -/
inductive NumeralFault
  | malformed
  | oversized
deriving DecidableEq, Repr

/-- Is the character an ASCII digit other than zero? -/
def isLeadingDigit (c : Char) : Bool := c.isDigit && c ≠ '0'

/-- What zeros and underscores leave; `last` is the character before. -/
def afterZeros (last : Char) : List Char → Option (List Char)
  | [] => some [last]
  | c :: cs =>
    if c = '0' ∨ c = '_' then afterZeros c cs
    else if isLeadingDigit c ∨ c = '-' then some (c :: cs)
    else if c = '.' then some (last :: c :: cs)
    else none

/-- What the zeros in front leave; there has to be a digit in front. -/
def dropZeros : List Char → Option (List Char)
  | '0' :: cs => afterZeros '0' cs
  | c :: cs => if isLeadingDigit c then some (c :: cs) else none
  | [] => none

/-- The characters before the first point, if zeros and nothing else follow it. -/
def dropZeroFraction (cs : List Char) : List Char :=
  let fraction := (cs.dropWhile (· ≠ '.')).drop 1
  if !fraction.isEmpty && fraction.all (· = '0') then cs.takeWhile (· ≠ '.') else cs

/-- Do two underscores stand side by side? -/
def hasDoubleUnderscore : List Char → Bool
  | '_' :: '_' :: _ => true
  | _ :: cs => hasDoubleUnderscore cs
  | [] => false

/-- The characters without underscores, each of which has to stand between two others. -/
def dropUnderscores (cs : List Char) : Option (List Char) :=
  if cs.head? = some '_' ∨ cs.getLast? = some '_' ∨ hasDoubleUnderscore cs then none
  else some (cs.filter (· ≠ '_'))

/-- The number of a plain numeral without a sign, unless it has too many digits. -/
def plainMagnitude (cs : List Char) : Option Nat :=
  if cs = ['0'] then some 0
  else if cs.head?.any isLeadingDigit && cs.all Char.isDigit && cs.length ≤ Number.maxDigits then
    some (Text.digitsValue cs)
  else none

/-- The integer of a plain numeral. -/
def plainNumeral : List Char → Option Int
  | '-' :: cs => (plainMagnitude cs).map fun n => -(n : Int)
  | cs => (plainMagnitude cs).map fun n => (n : Int)

/-- The plain numeral that tidying up leaves of characters after their sign. -/
def tidy (cs : List Char) : Option (List Char) :=
  ((dropZeros cs).map dropZeroFraction).bind dropUnderscores

/-- The characters after a minus, if there is one. -/
def afterMinus : List Char → List Char
  | '-' :: cs => cs
  | cs => cs

/-- Do characters begin with a plain numeral of too many digits, a minus apart? -/
def isOversized (cs : List Char) : Bool :=
  let digits := (afterMinus cs).takeWhile Char.isDigit
  digits.head?.any isLeadingDigit && Number.maxDigits < digits.length

/-- The integer that is left once characters are tidied up. -/
def tidyNumeral (cs : List Char) : Option Int :=
  let (negative, rest) := Text.splitSign (Text.trim Text.isWhiteSpace cs)
  (tidy rest).bind fun plain => plainNumeral (if negative then '-' :: plain else plain)

/-- The integer that characters spell. -/
def readNumeral (cs : List Char) : Except NumeralFault Int :=
  if isOversized cs then .error .oversized
  else
    match tidyNumeral cs with
    | some n => .ok n
    | none => .error .malformed

theorem plainMagnitude_zero {cs : List Char} {n : Nat} (h : plainMagnitude ('0' :: cs) = some n) :
    cs = [] := by
  unfold plainMagnitude at h
  split at h
  · rename_i hc
    injection hc
  · have hd : isLeadingDigit '0' = false := by decide
    simp [hd] at h

theorem readNumeral_oversized {cs : List Char} :
    readNumeral cs = .error .oversized ↔ isOversized cs = true := by
  unfold readNumeral
  cases isOversized cs with
  | true => simp
  | false => cases tidyNumeral cs <;> simp

end CrossVenue.Schema
