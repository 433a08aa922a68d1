import CrossVenue.Failure
import CrossVenue.Json.Shown
import CrossVenue.Number.Rounded

/-!
# Numbers of any kind

Where an integer belongs, a truth value or a floating-point number may stand.  A truth value counts as
zero or one, and is shown as it was given until it is computed with.  What is computed from integers is
an integer; as soon as a floating-point number takes part, all operands become such numbers, as far as
one is near enough.  Comparisons are exact.

* `scalar_eq_ok_iff` : which values are numbers;
* `Extent.repeated_ne_ok` : texts and lists that are repeated are none;
* `sum_whole`, `difference_whole`, `product_whole`, `compare?_whole` : integers are computed with and
  compared as such.
-/

set_option autoImplicit false

namespace CrossVenue

/-- A number as it was given. -/
inductive Scalar
  | whole (n : Int)
  | truth (b : Bool)
  | real (x : Binary64)
deriving DecidableEq, Repr

namespace Scalar

instance : Coe Int Scalar := ⟨whole⟩

instance : Coe Nat Scalar := ⟨fun n => whole n⟩

instance (n : Nat) : OfNat Scalar n := ⟨whole n⟩

/-- The integer that a number counts as, unless it is a floating-point number. -/
def integer? : Scalar → Option Int
  | whole n => some n
  | truth b => some (if b then 1 else 0)
  | real _ => none

/-- The number as it was given. -/
def toJson : Scalar → Json
  | whole n => .int n
  | truth b => .bool b
  | real x => .float x

/-- The number as messages show it. -/
def piece : Scalar → Piece
  | whole n => n
  | truth b => if b then "True" else "False"
  | real x => x.text "inf" "nan"

/-- The floating-point number next to an integer. -/
def nearest (n : Int) : Attempt Binary64 :=
  match Binary64.ofInt n with
  | .infinite _ => breakDown .notFinite
  | x => .ok x

/-- The floating-point number that a number becomes. -/
def floating : Scalar → Attempt Binary64
  | real x => .ok x
  | whole n => nearest n
  | truth b => nearest (if b then 1 else 0)

/-- Computes with integers if both numbers count as such, and with floating-point numbers otherwise. -/
def combine (onIntegers : Int → Int → Int) (onFloats : Binary64 → Binary64 → Binary64)
    (a b : Scalar) : Attempt Scalar :=
  match a.integer?, b.integer? with
  | some m, some n => .ok (whole (onIntegers m n))
  | _, _ => do .ok (real (onFloats (← a.floating) (← b.floating)))

/-- The sum. -/
def sum : Scalar → Scalar → Attempt Scalar := combine (· + ·) Binary64.sum

/-- The difference. -/
def difference : Scalar → Scalar → Attempt Scalar := combine (· - ·) Binary64.difference

/-- The product. -/
def product : Scalar → Scalar → Attempt Scalar := combine (· * ·) Binary64.product

/-- The quotient rounded down; the divisor is not zero. -/
def floorQuotient : Scalar → Scalar → Attempt Scalar := combine Int.fdiv Binary64.floorQuotient

/-- The number with the other sign. -/
def negated : Scalar → Scalar
  | whole n => whole (-n)
  | truth b => whole (if b then -1 else 0)
  | real x => real x.negated

/-- The number without its sign. -/
def magnitude : Scalar → Scalar
  | whole n => whole n.natAbs
  | truth b => whole (if b then 1 else 0)
  | real x => real x.magnitude

/-- How two numbers compare; what is no number in floating point does not. -/
def compare? (a b : Scalar) : Option Ordering :=
  match a, b with
  | real x, real y => x.compare? y
  | real x, b => b.integer?.bind x.order?
  | a, real y => (a.integer?.bind y.order?).map Ordering.swap
  | a, b => do some (compare (← a.integer?) (← b.integer?))

/-- Is a number below another one? -/
def isBelow (a b : Scalar) : Bool := a.compare? b = some .lt

/-- Is a number above another one? -/
def isAbove (a b : Scalar) : Bool := a.compare? b = some .gt

/-- Are two numbers equal? -/
def isEqual (a b : Scalar) : Bool := a.compare? b = some .eq

/-- Is a number not above another one? -/
def isAtMost (a b : Scalar) : Bool := a.isBelow b || a.isEqual b

theorem sum_whole (m n : Int) : sum m n = .ok (whole (m + n)) := rfl

theorem difference_whole (m n : Int) : difference m n = .ok (whole (m - n)) := rfl

theorem product_whole (m n : Int) : product m n = .ok (whole (m * n)) := rfl

theorem compare?_whole (m n : Int) : compare? m n = some (compare m n) := rfl

theorem isBelow_whole (m n : Int) : isBelow m n = decide (m < n) := by
  simp only [isBelow, compare?_whole, Option.some.injEq, Int.compare_eq_lt]

theorem isAbove_whole (m n : Int) : isAbove m n = decide (n < m) := by
  simp only [isAbove, compare?_whole, Option.some.injEq, Int.compare_eq_gt]

theorem isAtMost_whole (m n : Int) : isAtMost m n = decide (m ≤ n) := by
  simp only [isAtMost, isBelow, isEqual, compare?_whole, Option.some.injEq, Int.compare_eq_lt,
    Int.compare_eq_eq]
  by_cases h : m ≤ n
  · have : m < n ∨ m = n := by omega
    simp [h, this]
  · have h1 : ¬ m < n := by omega
    have h2 : ¬ m = n := by omega
    simp [h, h1, h2]

end Scalar

namespace Json

/-- The number that a value is. -/
def scalar? : Json → Option Scalar
  | .int n => some (.whole n)
  | .bool b => some (.truth b)
  | .float x => some (.real x)
  | _ => none

/-- The number that a value has to be. -/
def scalar (v : Json) : Attempt Scalar :=
  match v.scalar? with
  | some s => .ok s
  | none => breakDown .wrongKind

/-- Is the value a zero? -/
def isZero (v : Json) : Bool :=
  match v.scalar? with
  | some s => s.isEqual 0
  | none => false

/-- How many bytes a code point takes in memory, in a text of which it is the greatest. -/
def pointSize (p : CodePoint) : Nat :=
  if p.toNat < 0x100 then 1 else if p.toNat < 0x10000 then 2 else 4

/-- What it takes to hold a text or a list many times over. -/
structure Extent where
  /-- How many parts there are. -/
  count : Nat
  /-- How many bytes each part takes. -/
  partSize : Nat
  /-- What becomes of a length that is outside of 64 bits. -/
  tooLong : Breakdown

/-- The extent of a text or a list; other values cannot be repeated. -/
def extent? : Json → Option Extent
  | .str s => some ⟨s.length, s.toList.foldl (fun size p => max size (pointSize p)) 1, .notFinite⟩
  | .arr items => some ⟨items.length, 8, .outOfMemory⟩
  | _ => none

/-- How many bytes have room in memory. -/
def room : Nat := 0x800000000

/-- What a text or a list, which an integer repeats, leads to where a number is needed. -/
def Extent.repeated (e : Extent) (times : Int) : Attempt Scalar :=
  if times < -0x8000000000000000 ∨ 0x8000000000000000 ≤ times then breakDown .notFinite
  else if 0x8000000000000000 ≤ times * e.count then breakDown e.tooLong
  else if room ≤ times * e.count * e.partSize then breakDown .outOfMemory
  else breakDown .wrongKind

/-- The product of two values that should be numbers.  An integer repeats a text or a list, and what that
gives is no number. -/
def product (a b : Json) : Attempt Scalar :=
  match a.extent?, b.scalar?.bind Scalar.integer?, a.scalar?.bind Scalar.integer?, b.extent? with
  | some extent, some times, _, _ => extent.repeated times
  | _, _, some times, some extent => extent.repeated times
  | _, _, _, _ => do (← a.scalar).product (← b.scalar)

/-- What is repeated is never a number. -/
theorem Extent.repeated_ne_ok (e : Extent) (times : Int) (s : Scalar) :
    e.repeated times ≠ .ok s := by
  unfold repeated breakDown
  split
  · simp
  · split
    · simp
    · split <;> simp

/-- Are two values texts, or lists, so that they can be joined? -/
def canJoin : Json → Json → Bool
  | .str _, .str _ => true
  | .arr _, .arr _ => true
  | _, _ => false

theorem scalar_eq_ok_iff {v : Json} {s : Scalar} : v.scalar = .ok s ↔ v = s.toJson := by
  unfold scalar breakDown
  cases v <;> cases s <;> simp [scalar?, Scalar.toJson]

end Json

end CrossVenue
