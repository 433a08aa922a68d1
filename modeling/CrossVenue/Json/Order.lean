import CrossVenue.Json.Scalar

/-!
# How values compare

Numbers compare by value and texts by their code points.  Lists compare by the first items that do not
agree, and if there are none, by length.  Nothing else compares, though all values agree or not.

* `order_toJson`, `order_str` : numbers and texts;
* `order_mismatch` : the first items decide unless they agree.
-/

set_option autoImplicit false

namespace CrossVenue.Json

mutual

/-- Are two values equal, with numbers of all kinds compared by value? -/
def agrees : Json → Json → Bool
  | .null, .null => true
  | .str s, .str t => s = t
  | .arr items, .arr others => agreeItems items others
  | .obj fields, .obj others => fields.length = others.length && agreeFields fields others
  | .int n, w => (w.scalar?.map (Scalar.isEqual (.whole n))).getD false
  | .bool b, w => (w.scalar?.map (Scalar.isEqual (.truth b))).getD false
  | .float x, w => (w.scalar?.map (Scalar.isEqual (.real x))).getD false
  | _, _ => false

/-- Are two lists equal, item by item? -/
def agreeItems : List Json → List Json → Bool
  | [], [] => true
  | v :: rest, w :: others => agrees v w && agreeItems rest others
  | _, _ => false

/-- Does every field have an equal one of its name among others? -/
def agreeFields : List (Text × Json) → List (Text × Json) → Bool
  | [], _ => true
  | (name, v) :: rest, others =>
    (match others.lookup name with
      | some w => agrees v w
      | none => false) && agreeFields rest others

end

/-- How two texts compare. -/
def textOrder (s t : Text) : Ordering :=
  compare (s.toList.map CodePoint.toNat) (t.toList.map CodePoint.toNat)

mutual

/-- How two values compare that have to be numbers, texts or lists. -/
def order : Json → Json → Attempt (Option Ordering)
  | .str s, .str t => .ok (some (textOrder s t))
  | .arr items, .arr others => orderItems items others
  | v, w => do .ok ((← v.scalar).compare? (← w.scalar))

/-- How two lists compare. -/
def orderItems : List Json → List Json → Attempt (Option Ordering)
  | [], [] => .ok (some .eq)
  | [], _ :: _ => .ok (some .lt)
  | _ :: _, [] => .ok (some .gt)
  | v :: rest, w :: others => if agrees v w then orderItems rest others else order v w

end

theorem order_toJson (a b : Scalar) : order a.toJson b.toJson = .ok (a.compare? b) := by
  cases a <;> cases b <;> rfl

theorem order_str (s t : Text) : order (.str s) (.str t) = .ok (some (textOrder s t)) := by
  simp only [order]

theorem order_mismatch {v w : Json} (h : agrees v w = false) (rest others : List Json) :
    order (.arr (v :: rest)) (.arr (w :: others)) = order v w := by
  simp [order, orderItems, h]

theorem orderItems_append_self {items : List Json} (h : ∀ v ∈ items, agrees v v = true)
    (rest others : List Json) :
    orderItems (items ++ rest) (items ++ others) = orderItems rest others := by
  induction items with
  | nil => rfl
  | cons v items ih =>
    have hv : agrees v v = true := h v (by simp)
    have hi : ∀ w ∈ items, agrees w w = true := fun w hw => h w (by simp [hw])
    simp [orderItems, hv, ih hi]

end CrossVenue.Json
