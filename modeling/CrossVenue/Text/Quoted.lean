import CrossVenue.Encoding.Hex
import CrossVenue.Text.Printable

/-!
# Quoted text

Text between quotes: apostrophes, unless the text holds an apostrophe and no double quote.  The
quote in use, the backslash and whatever cannot be printed are escaped, so a quoted text is plain.
-/

set_option autoImplicit false

namespace CrossVenue.Text

/-- The quote that a text is put between. -/
def quoteFor (t : Text) : Char :=
  if t.toList.contains (.char '\'') && !t.toList.contains (.char '\"') then '\"' else '\''

/-- A character inside quotes. -/
def quotedChar (quote c : Char) : List Char :=
  if c = quote ∨ c = '\\' then ['\\', c]
  else if c = '\n' then ['\\', 'n']
  else if c = '\r' then ['\\', 'r']
  else if c = '\t' then ['\\', 't']
  else if isPrintable c then [c]
  else if c.toNat < 0x100 then '\\' :: 'x' :: Hex.padded 2 c.toNat
  else if c.toNat < 0x10000 then '\\' :: 'u' :: Hex.padded 4 c.toNat
  else '\\' :: 'U' :: Hex.padded 8 c.toNat

/-- A code point inside quotes. -/
def quotedPoint (quote : Char) : CodePoint → List Char
  | .char c => quotedChar quote c
  | .half n => '\\' :: 'u' :: Hex.padded 4 (CodePoint.half n).toNat

/-- The text between quotes. -/
def quoted (t : Text) : String :=
  let q := quoteFor t
  String.ofList (q :: t.toList.flatMap (quotedPoint q) ++ [q])

end CrossVenue.Text
