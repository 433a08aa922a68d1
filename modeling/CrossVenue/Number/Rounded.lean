import CrossVenue.Number.Binary64

/-!
# Arithmetic of floating-point numbers

Every operation on finite values computes its exact result and rounds it once, to the nearest value, ties
to the even mantissa.  A zero has a sign: that of an exact product or quotient, and the positive one when
numbers of different signs cancel.

* `sum_comm`, `product_comm` : operands may be exchanged;
* `negated_negated` : the sign is all that negation changes;
* `compare?_swap` : how two values compare from the other side.
-/

set_option autoImplicit false

namespace CrossVenue.Binary64

/-- An integer of a sign and a magnitude. -/
def signed (negative : Bool) (m : Nat) : Int := if negative then -(m : Int) else m

/-- A value's integer in units of `2 ^ low`, where its exponent is not below `low`. -/
def unitsAt (low : Int) (negative : Bool) (m : Nat) (e : Int) : Int :=
  signed negative m * (Nat.pow 2 (e - low).toNat : Nat)

/-- The value nearest to `k * 2 ^ e`; a zero takes the sign that is given. -/
def ofUnits (negativeZero : Bool) (k : Int) (e : Int) : Binary64 :=
  if k = 0 then zero negativeZero
  else
    let (num, den) := scaledDown k.natAbs 1 (-e)
    ofRatio (k < 0) num den

/-- The value nearest to an integer, which is infinite if no finite one is near enough. -/
def ofInt (n : Int) : Binary64 := ofUnits false n 0

/-- Is the sign negative? -/
def isNegative : Binary64 → Bool
  | finite negative _ _ => negative
  | infinite negative => negative
  | undefined => false

/-- The value with the other sign. -/
def negated : Binary64 → Binary64
  | finite negative m e => finite (!negative) m e
  | infinite negative => infinite (!negative)
  | undefined => undefined

/-- The value without its sign. -/
def magnitude : Binary64 → Binary64
  | finite _ m e => finite false m e
  | infinite _ => infinite false
  | undefined => undefined

/-- The sum. -/
def sum : Binary64 → Binary64 → Binary64
  | finite n m e, finite n' m' e' =>
    let low := min e e'
    ofUnits (n && n') (unitsAt low n m e + unitsAt low n' m' e') low
  | infinite n, infinite n' => if n = n' then infinite n else undefined
  | infinite n, finite .. => infinite n
  | finite .., infinite n => infinite n
  | _, _ => undefined

/-- The difference. -/
def difference (x y : Binary64) : Binary64 := sum x y.negated

/-- The product. -/
def product : Binary64 → Binary64 → Binary64
  | finite n m e, finite n' m' e' => ofUnits (n ^^ n') (signed (n ^^ n') (m * m')) (e + e')
  | infinite n, infinite n' => infinite (n ^^ n')
  | infinite n, finite n' m _ => if m = 0 then undefined else infinite (n ^^ n')
  | finite n m _, infinite n' => if m = 0 then undefined else infinite (n ^^ n')
  | _, _ => undefined

/-- The quotient. -/
def quotient : Binary64 → Binary64 → Binary64
  | finite n m e, finite n' m' e' =>
    if m' = 0 then (if m = 0 then undefined else infinite (n ^^ n'))
    else if m = 0 then zero (n ^^ n')
    else
      let (num, den) := scaledDown m m' (e' - e)
      ofRatio (n ^^ n') num den
  | infinite n, finite n' _ _ => infinite (n ^^ n')
  | finite n _ _, infinite n' => zero (n ^^ n')
  | _, _ => undefined

/-- What division of magnitudes leaves, with the sign of the dividend; it is exact. -/
def remainder : Binary64 → Binary64 → Binary64
  | finite n m e, finite n' m' e' =>
    if m' = 0 then undefined
    else
      let low := min e e'
      let left := (unitsAt low n m e).natAbs % (unitsAt low n' m' e').natAbs
      ofUnits n (signed n left) low
  | finite n m e, infinite _ => finite n m e
  | _, _ => undefined

/-- The greatest integer that is not above the value. -/
def floor : Binary64 → Binary64
  | finite n m e => ofUnits n (floorOr 0 0 (finite n m e)) 0
  | x => x

/-- How two values compare; a value that is no number does not. -/
def compare? : Binary64 → Binary64 → Option Ordering
  | finite n m e, finite n' m' e' =>
    let low := min e e'
    some (compare (unitsAt low n m e) (unitsAt low n' m' e'))
  | infinite n, infinite n' => some (compare n'.toNat n.toNat)
  | infinite n, finite .. => some (if n then .lt else .gt)
  | finite .., infinite n => some (if n then .gt else .lt)
  | _, _ => none

/-- Is the value a zero? -/
def isZero : Binary64 → Bool
  | finite _ m _ => m = 0
  | _ => false

/-- The value one. -/
def one : Binary64 := ofInt 1

/-- The value nearest to the quotient that a remainder leaves, less one if the remainder has not the sign of
the divisor. -/
def wholeQuotient (x y : Binary64) : Binary64 :=
  let left := remainder x y
  let q := quotient (difference x left) y
  if !left.isZero && left.isNegative != y.isNegative then difference q one else q

/-- The integer nearest to a value that is nearly one. -/
def settled (x : Binary64) : Binary64 :=
  let below := x.floor
  if (difference x below).compare? (quotient one (ofInt 2)) = some .gt then sum below one else below

/-- The quotient rounded down to an integer; a zero has the sign of the quotient. -/
def floorQuotient (x y : Binary64) : Binary64 :=
  let q := wholeQuotient x y
  if q.isZero then zero (x.isNegative ^^ y.isNegative) else settled q

theorem negated_negated (x : Binary64) : x.negated.negated = x := by
  cases x <;> simp [negated]

theorem sum_comm (x y : Binary64) : sum x y = sum y x := by
  cases x <;> cases y <;> simp only [sum]
  · simp only [Bool.and_comm, Int.add_comm, Int.min_comm]
  · rename_i n n'
    cases n <;> cases n' <;> rfl

theorem product_comm (x y : Binary64) : product x y = product y x := by
  cases x <;> cases y <;> simp only [product, Bool.xor_comm, Nat.mul_comm, Int.add_comm]

theorem compare?_swap (x y : Binary64) : x.compare? y = (y.compare? x).map Ordering.swap := by
  cases x <;> cases y <;> simp only [compare?, Option.map]
  · rw [Int.min_comm, Int.compare_swap]
  · split <;> rfl
  · split <;> rfl
  · rw [Nat.compare_swap]

end CrossVenue.Binary64
