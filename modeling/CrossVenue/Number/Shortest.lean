import CrossVenue.Number.Binary64

/-!
# Shortest decimal text of a floating-point number

The digits are the fewest that read back as the same value and, among those, the nearest to it, the
even ones of two that are equally near.
Numbers from `1e-4` up to below `1e16` are written positionally and always show a point.
-/

set_option autoImplicit false

namespace CrossVenue.Binary64

/-- A decimal `digits * 10 ^ exponent`. -/
structure Decimal where
  digits : Nat
  exponent : Int
deriving DecidableEq, Repr

/-- The exponent of the leading decimal digit of a quotient of positive numbers. -/
def leadingExponent (num den : Nat) : Int :=
  let p : Int := (decimalLength num : Int) - decimalLength den
  if 0 ≤ p then (if num ≥ den * Nat.pow 10 p.toNat then p else p - 1)
  else (if num * Nat.pow 10 (-p).toNat ≥ den then p else p - 1)

/-- Numerator and denominator of a quotient in units of `10 ^ e`. -/
def inUnits (num den : Nat) (e : Int) : Nat × Nat :=
  if 0 ≤ e then (num, den * Nat.pow 10 e.toNat) else (num * Nat.pow 10 (-e).toNat, den)

/-- The decimal of at most `count` digits that reads back as the positive value `x = num / den`. -/
def decimalOf? (x : Binary64) (num den count : Nat) : Option Decimal :=
  let e := leadingExponent num den - count + 1
  let (n, d) := inUnits num den e
  let below := n / d
  let candidates :=
    if roundedQuotient n d = below then [below, below + 1] else [below + 1, below]
  (candidates.find? fun q => ofDecimal false q e == x).map fun q => ⟨q, e⟩

/-- The shortest decimal of a finite positive value. -/
def shortest (m : Nat) (e : Int) : Decimal :=
  let (num, den) := if 0 ≤ e then (m * Nat.pow 2 e.toNat, 1) else (m, Nat.pow 2 (-e).toNat)
  let x := finite false m e
  ((List.range 17).findSome? fun k => decimalOf? x num den (k + 1)).getD ⟨num / den, 0⟩

/-- Digits without trailing zeros. -/
def dropTrailingZeros (cs : List Char) : List Char := (cs.reverse.dropWhile (· = '0')).reverse

/-- The exponent with its sign and at least two digits. -/
def exponentText (e : Int) : String :=
  let ds := toString e.natAbs
  (if e < 0 then "e-" else "e+") ++ (if ds.length < 2 then "0" ++ ds else ds)

/-- The text of a positive decimal. -/
def Decimal.text (x : Decimal) : String :=
  let all := (toString x.digits).toList
  let ds := dropTrailingZeros all
  let point : Int := (all.length : Int) + x.exponent
  if point < -3 ∨ 16 < point then
    let fraction := match ds.drop 1 with
      | [] => ""
      | fs => "." ++ String.ofList fs
    String.ofList (ds.take 1) ++ fraction ++ exponentText (point - 1)
  else if point ≤ 0 then
    "0." ++ String.ofList (List.replicate (-point).toNat '0' ++ ds)
  else
    let whole := ds.take point.toNat
    let fraction := ds.drop point.toNat
    String.ofList (whole ++ List.replicate (point.toNat - whole.length) '0') ++ "." ++
      (if fraction.isEmpty then "0" else String.ofList fraction)

/-- The text of a number; `infinity` and `undefined` name the values that have no digits. -/
def text (infinity undefinedName : String) : Binary64 → String
  | finite negative m e =>
    (if negative then "-" else "") ++ (if m = 0 then "0.0" else (shortest m e).text)
  | infinite negative => (if negative then "-" else "") ++ infinity
  | undefined => undefinedName

end CrossVenue.Binary64
