import CrossVenue.Arbitrage.Route
import CrossVenue.Proofs.Arbitrage.Plan
import Mathlib.Data.List.Induction
import Mathlib.Data.List.Nodup

/-!
# Where a route leads

One pass over some pools keeps the first one of the lowest rate and the first one of the highest.  Rates are
rounded, but rounding never reverses the order of two prices.  Pools are told apart by their positions, so
whoever lists objects that hold pools, some of them several times, learns which objects are chosen.

* `FirstLeast`, `FirstGreatest` : what a pass that keeps the better of two ends at;
* `Pool.price_lt_of_rate_lt` : a lower rate is a lower price;
* `deviationRatio_mem_of_price_lt` : the deviation from a cheaper pool to a dearer one is below zero;
* `ratedFrom_eq` : pools are rejected at the first one that has no price, and nowhere else;
* `selectRoute_extremes` : which objects a route joins, when they are one, and that the order in which they
  are listed does not matter;
* `selectRoute_distinct` : a route that is not trivial joins pools that differ in whatever tells all
  pools of the list apart.
-/

set_option autoImplicit false

namespace CrossVenue

/-! ## The first of the least -/

section

variable {α β : Type} {value : α → Int} {xs ys : List α} {n m : Nat} {x y : α}

/-- The item at a position is the first of the least of a list. -/
structure FirstLeast (value : α → Int) (xs : List α) (n : Nat) (x : α) : Prop where
  getElem?_eq : xs[n]? = some x
  le : ∀ y ∈ xs, value x ≤ value y
  /-- What stands before it is greater. -/
  lt : ∀ m < n, ∀ y, xs[m]? = some y → value x < value y

/-- The item at a position is the first of the greatest of a list. -/
def FirstGreatest (value : α → Int) (xs : List α) (n : Nat) (x : α) : Prop :=
  FirstLeast (fun y => -value y) xs n x

namespace FirstLeast

theorem mem (h : FirstLeast value xs n x) : x ∈ xs := List.mem_of_getElem? h.getElem?_eq

/-- One more item takes over only if it is less. -/
theorem concat (h : FirstLeast value xs n x) (y : α) :
    ∃ m, FirstLeast value (xs ++ [y]) m (if value y < value x then y else x) := by
  by_cases hy : value y < value x
  · rw [if_pos hy]
    refine ⟨xs.length, by simp, ?_, ?_⟩
    · intro z hz
      rcases List.mem_append.1 hz with hz | hz
      · have := h.le z hz
        omega
      · rw [List.mem_singleton.1 hz]
    · intro m hm z hget
      rw [List.getElem?_append_left hm] at hget
      have := h.le z (List.mem_of_getElem? hget)
      omega
  · rw [if_neg hy]
    obtain ⟨hn, -⟩ := List.getElem?_eq_some_iff.1 h.getElem?_eq
    refine ⟨n, ?_, ?_, ?_⟩
    · rw [List.getElem?_append_left hn, h.getElem?_eq]
    · intro z hz
      rcases List.mem_append.1 hz with hz | hz
      · exact h.le z hz
      · rw [List.mem_singleton.1 hz]
        omega
    · intro m hm z hget
      rw [List.getElem?_append_left (by omega)] at hget
      exact h.lt m hm z hget

/-- A list is read off another one that was made of it item by item. -/
theorem of_getElem? {f : Nat → α → β} {made : List β} {value' : β → Int} {z : β}
    (hget : ∀ i, made[i]? = (xs[i]?).map (f i)) (hvalue : ∀ i a, value' (f i a) = value a)
    (h : FirstLeast value' made n z) : ∃ a, z = f n a ∧ FirstLeast value xs n a := by
  have hz := h.getElem?_eq
  rw [hget, Option.map_eq_some_iff] at hz
  obtain ⟨a, ha, rfl⟩ := hz
  refine ⟨a, rfl, ha, ?_, ?_⟩
  · intro b hb
    obtain ⟨i, hi⟩ := List.mem_iff_getElem?.1 hb
    have hmade : made[i]? = some (f i b) := by rw [hget, hi, Option.map_some]
    have := h.le _ (List.mem_of_getElem? hmade)
    rwa [hvalue, hvalue] at this
  · intro i hi b hb
    have hmade : made[i]? = some (f i b) := by rw [hget, hb, Option.map_some]
    have := h.lt i hi _ hmade
    rwa [hvalue, hvalue] at this

/-- The first of items that are all alike is the first of all. -/
theorem eq_zero (h : FirstLeast value xs n x) (hall : ∀ a ∈ xs, ∀ b ∈ xs, value a = value b) :
    n = 0 := by
  by_contra hn
  obtain ⟨hlt, -⟩ := List.getElem?_eq_some_iff.1 h.getElem?_eq
  have hfirst : xs[0]? = some xs[0] := List.getElem?_eq_getElem (by omega)
  have hless := h.lt 0 (by omega) _ hfirst
  have heq := hall x h.mem _ (List.mem_of_getElem? hfirst)
  omega

/-- Where items differ in value, their order does not matter. -/
theorem eq_of_perm (h : FirstLeast value xs n x) (h' : FirstLeast value ys m y) (hp : xs.Perm ys)
    (hinj : ∀ a ∈ xs, ∀ b ∈ xs, value a = value b → a = b) : y = x := by
  have hy : y ∈ xs := hp.mem_iff.2 h'.mem
  have h1 := h.le y hy
  have h2 := h'.le x (hp.mem_iff.1 h.mem)
  exact hinj y hy x h.mem (by omega)

end FirstLeast

/-- **A pass that replaces what it keeps by what is less ends at the first of the least.** -/
theorem firstLeast_foldl (value : α → Int) (first : α) (rest : List α) :
    ∃ n, FirstLeast value (first :: rest) n
      (rest.foldl (fun best a => if value a < value best then a else best) first) := by
  induction rest using List.reverseRecOn with
  | nil =>
    refine ⟨0, rfl, ?_, ?_⟩
    · intro a ha
      rw [List.mem_singleton.1 ha]
      exact Int.le_refl _
    · intro m hm
      omega
  | append_singleton rest a ih =>
    obtain ⟨n, hn⟩ := ih
    rw [List.foldl_append, ← List.cons_append]
    exact hn.concat a

end

/-- Stated for any rate, so that no rate is computed where it is used. -/
theorem Rated.rate_mk (n : Nat) (p : Pool) (rate : Int) : (Rated.mk n p rate).rate = rate := rfl

theorem cheapest_firstLeast (first : Rated) (rest : List Rated) :
    ∃ n, FirstLeast Rated.rate (first :: rest) n (cheapest first rest) :=
  firstLeast_foldl Rated.rate first rest

theorem dearest_firstGreatest (first : Rated) (rest : List Rated) :
    ∃ n, FirstGreatest Rated.rate (first :: rest) n (dearest first rest) := by
  have h := firstLeast_foldl (fun r : Rated => -r.rate) first rest
  simp only [Int.neg_lt_neg_iff] at h
  exact h

/-! ## Rates and prices -/

namespace Pool

/-- Units of asset A for one unit of asset B, under the multiplier by which rates are compared. -/
def rate (p : Pool) : Int := (p.reserveA * rateMultiplier).tdiv p.reserveB

theorem spotRate_eq (p : Pool) :
    p.spotRate rateMultiplier =
      if p.reserveB = 0 then rejectAt p.venue (.pool .unpriceable) else .ok p.rate := by
  unfold spotRate truncatedQuotient
  by_cases hb : p.reserveB = 0
  · rw [if_pos hb, if_pos hb]
  · rw [if_neg hb, if_neg hb, if_neg (by omega)]
    rfl

theorem rate_eq_natCast (p : Pool) :
    p.rate = (p.reserveA * 1000000000000000000 / p.reserveB : Nat) := by
  have hnum : (0 : Int) ≤ p.reserveA * rateMultiplier :=
    Int.mul_nonneg (Int.natCast_nonneg _) (by decide)
  rw [rate, Int.tdiv_eq_ediv_of_nonneg hnum]
  rfl

/-- **A lower rate is a lower price.**  Rates are rounded, and prices that round alike may differ either
way. -/
theorem price_lt_of_rate_lt {p q : Pool} (hp : p.reserveB ≠ 0) (hq : q.reserveB ≠ 0)
    (h : p.rate < q.rate) : p.reserveA * q.reserveB < q.reserveA * p.reserveB := by
  by_contra hle
  rw [Nat.not_lt] at hle
  rw [rate_eq_natCast, rate_eq_natCast] at h
  have hrate : q.reserveA * 1000000000000000000 / q.reserveB ≤
      p.reserveA * 1000000000000000000 / p.reserveB := by
    rw [Nat.le_div_iff_mul_le (Nat.pos_of_ne_zero hp)]
    refine Nat.le_of_mul_le_mul_right ?_ (Nat.pos_of_ne_zero hq)
    calc q.reserveA * 1000000000000000000 / q.reserveB * p.reserveB * q.reserveB
        = q.reserveA * 1000000000000000000 / q.reserveB * q.reserveB * p.reserveB :=
          Nat.mul_right_comm _ _ _
      _ ≤ q.reserveA * 1000000000000000000 * p.reserveB :=
          Nat.mul_le_mul_right _ (Nat.div_mul_le_self _ _)
      _ = q.reserveA * p.reserveB * 1000000000000000000 := Nat.mul_right_comm _ _ _
      _ ≤ p.reserveA * q.reserveB * 1000000000000000000 := Nat.mul_le_mul_right _ hle
      _ = p.reserveA * 1000000000000000000 * q.reserveB := Nat.mul_right_comm _ _ _
  omega

end Pool

/-- **The deviation from a cheaper pool to a dearer one is below zero**, and never below minus everything. -/
theorem deviationRatio_mem_of_price_lt {source target : Pool} {ratio : Int}
    (hprice : source.reserveA * target.reserveB < target.reserveA * source.reserveB)
    (h : deviationRatio source target = .ok ratio) : -1000000 ≤ ratio ∧ ratio ≤ -1 := by
  obtain ⟨hden, -, rfl⟩ := deviationRatio_eq_ok_iff.1 h
  have hscale : feeScale = 1000000 := rfl
  have hquotient : source.reserveA * target.reserveB * feeScale /
      (source.reserveB * target.reserveA) < feeScale := by
    rw [Nat.div_lt_iff_lt_mul (Nat.pos_of_ne_zero hden), Nat.mul_comm feeScale,
      Nat.mul_comm source.reserveB]
    exact Nat.mul_lt_mul_of_pos_right hprice (by decide)
  generalize source.reserveA * target.reserveB * feeScale /
    (source.reserveB * target.reserveA) = quotient at hquotient ⊢
  omega

/-! ## Routes -/

/-- **Pools are rated unless one of them has no price**; the first such pool is named. -/
theorem ratedFrom_eq (n : Nat) (pools : List Pool) :
    ratedFrom n pools =
      match pools.find? fun p => p.reserveB == 0 with
      | some p => rejectAt p.venue (.pool .unpriceable)
      | none => .ok (pools.mapIdx fun i p => ⟨n + i, p, p.rate⟩) := by
  induction pools generalizing n with
  | nil => rfl
  | cons p pools ih =>
    rw [ratedFrom, p.spotRate_eq]
    by_cases hb : p.reserveB = 0
    · rw [if_pos hb, List.find?_cons_of_pos (by simpa using hb)]
      rfl
    · rw [if_neg hb, List.find?_cons_of_neg (by simpa using hb), ih (n + 1)]
      cases pools.find? fun p => p.reserveB == 0 with
      | some q => rfl
      | none =>
        simp only [bind, Except.bind, List.mapIdx_cons, Nat.add_zero, Nat.add_assoc, Nat.add_comm 1]

section

variable {Object : Type} (pool : Object → Pool) {objects : List Object}

/-- What a route between objects that hold pools has chosen. -/
structure Route.Chooses (route : Route) (objects : List Object) (source target : Object) : Prop where
  source_eq : route.source = ⟨route.source.position, pool source, (pool source).rate⟩
  target_eq : route.target = ⟨route.target.position, pool target, (pool target).rate⟩
  /-- The source has the lowest rate, and a lower one than all before it. -/
  cheapest : FirstLeast (fun o => (pool o).rate) objects route.source.position source
  /-- The target has the highest rate, and a higher one than all before it. -/
  dearest : FirstGreatest (fun o => (pool o).rate) objects route.target.position target

variable {pool} {route : Route} {source target : Object}

/-- Objects that have a price are rated one by one. -/
theorem exists_ratedFrom (hpriced : ∀ o ∈ objects, (pool o).reserveB ≠ 0) :
    ∃ rated, ratedFrom 0 (objects.map pool) = .ok rated ∧
      ∀ i, rated[i]? = (objects[i]?).map fun o => (⟨i, pool o, (pool o).rate⟩ : Rated) := by
  have hfind : (objects.map pool).find? (fun p => p.reserveB == 0) = none := by
    rw [List.find?_eq_none]
    intro p hp
    obtain ⟨o, ho, rfl⟩ := List.mem_map.1 hp
    simpa using hpriced o ho
  have hrated := ratedFrom_eq 0 (objects.map pool)
  rw [hfind] at hrated
  refine ⟨_, hrated, ?_⟩
  intro i
  rw [List.getElem?_mapIdx, List.getElem?_map, Option.map_map]
  simp only [Nat.zero_add, Function.comp_def]

/-- **What is chosen of objects that can be rated.** -/
theorem selectRoute_chooses (hlength : 2 ≤ objects.length)
    (hpriced : ∀ o ∈ objects, (pool o).reserveB ≠ 0) :
    ∃ route source target, selectRoute (objects.map pool) = .ok route ∧
      route.Chooses pool objects source target := by
  obtain ⟨rated, hrated, hget⟩ := exists_ratedFrom hpriced
  cases rated with
  | nil =>
    have hnone := hget 0
    rw [List.getElem?_eq_getElem (show 0 < objects.length by omega)] at hnone
    cases hnone
  | cons first rest =>
    obtain ⟨n, hn⟩ := cheapest_firstLeast first rest
    obtain ⟨m, hm⟩ := dearest_firstGreatest first rest
    obtain ⟨source, hs, hs'⟩ := hn.of_getElem? hget fun i o => Rated.rate_mk i (pool o) _
    obtain ⟨target, ht, ht'⟩ := hm.of_getElem? hget fun i o =>
      congrArg (fun rate => -rate) (Rated.rate_mk i (pool o) _)
    have hroute : selectRoute (objects.map pool) = .ok ⟨cheapest first rest, dearest first rest⟩ := by
      rw [selectRoute, if_neg (by rw [List.length_map]; omega), hrated]
      rfl
    refine ⟨_, source, target, hroute, ?_⟩
    rw [hs, ht]
    exact ⟨rfl, rfl, hs', ht'⟩

namespace Route.Chooses

theorem rate_le (h : route.Chooses pool objects source target) {o : Object} (ho : o ∈ objects) :
    (pool source).rate ≤ (pool o).rate ∧ (pool o).rate ≤ (pool target).rate := by
  have h1 := h.cheapest.le o ho
  have h2 := h.dearest.le o ho
  simp only at h1 h2
  omega

/-- **Buying and selling meet exactly if all rates are equal**, in one position and so in one object. -/
theorem meet_iff (h : route.Chooses pool objects source target) :
    (route.isTrivial = true ↔ source = target) ∧
      (source = target ↔
        ∀ a ∈ objects, ∀ b ∈ objects, (pool a).rate = (pool b).rate) := by
  have hposition : route.isTrivial = true → source = target := by
    intro htrivial
    have heq : route.source.position = route.target.position := by
      simpa [Route.isTrivial] using htrivial
    have hs := h.cheapest.getElem?_eq
    rw [heq, h.dearest.getElem?_eq] at hs
    exact (Option.some.inj hs).symm
  have hrates : source = target → ∀ a ∈ objects, ∀ b ∈ objects, (pool a).rate = (pool b).rate := by
    rintro rfl a ha b hb
    have h1 := h.rate_le ha
    have h2 := h.rate_le hb
    omega
  have htrivial : (∀ a ∈ objects, ∀ b ∈ objects, (pool a).rate = (pool b).rate) →
      route.isTrivial = true := by
    intro hall
    have hs := h.cheapest.eq_zero hall
    have ht := h.dearest.eq_zero fun a ha b hb => congrArg _ (hall a ha b hb)
    simp [Route.isTrivial, hs, ht]
  exact ⟨⟨hposition, fun heq => htrivial (hrates heq)⟩, hrates, fun hall => hposition (htrivial hall)⟩

/-- Objects that differ differ in price. -/
theorem price_lt (h : route.Chooses pool objects source target)
    (hpriced : ∀ o ∈ objects, (pool o).reserveB ≠ 0) (hne : source ≠ target) :
    (pool source).reserveA * (pool target).reserveB <
      (pool target).reserveA * (pool source).reserveB := by
  have hs := h.cheapest.mem
  have ht := h.dearest.mem
  refine Pool.price_lt_of_rate_lt (hpriced _ hs) (hpriced _ ht) ?_
  by_contra hle
  refine hne (h.meet_iff.2.2 ?_)
  intro a ha b hb
  have h1 := h.rate_le ha
  have h2 := h.rate_le hb
  omega

/-- Where no two rates are equal, it does not matter in which order objects are listed. -/
theorem eq_of_perm (h : route.Chooses pool objects source target) {listed : List Object}
    {route' : Route} {source' target' : Object} (h' : route'.Chooses pool listed source' target')
    (hp : objects.Perm listed) (hd : (objects.map fun o => (pool o).rate).Nodup) :
    source' = source ∧ target' = target := by
  have hinj : ∀ a ∈ objects, ∀ b ∈ objects, (pool a).rate = (pool b).rate → a = b :=
    fun a ha b hb => List.inj_on_of_nodup_map hd ha hb
  refine ⟨h.cheapest.eq_of_perm h'.cheapest hp hinj, ?_⟩
  exact h.dearest.eq_of_perm h'.dearest hp fun a ha b hb heq =>
    hinj a ha b hb (Int.neg_inj.1 heq)

end Route.Chooses

/-- A list in which an object has no price is rejected. -/
theorem selectRoute_unpriceable (hlength : 2 ≤ objects.length)
    (h : ∃ o ∈ objects, (pool o).reserveB = 0) :
    ∃ o ∈ objects, (pool o).reserveB = 0 ∧
      selectRoute (objects.map pool) = rejectAt (pool o).venue (.pool .unpriceable) := by
  cases hfind : (objects.map pool).find? fun p => p.reserveB == 0 with
  | none =>
    obtain ⟨o, ho, hb⟩ := h
    have := List.find?_eq_none.1 hfind _ (List.mem_map.2 ⟨o, ho, rfl⟩)
    simp [hb] at this
  | some p =>
    obtain ⟨o, ho, rfl⟩ := List.mem_map.1 (List.mem_of_find?_eq_some hfind)
    have hb := List.find?_some hfind
    refine ⟨o, ho, by simpa using hb, ?_⟩
    rw [selectRoute, if_neg (by rw [List.length_map]; omega), ratedFrom_eq, hfind]
    rfl

/-- **A route buys at the first of the lowest rates and sells at the first of the highest.**  Objects hold
pools; some may hold equal pools, and some may be listed several times.  A list is rejected exactly if some
object has no price.  Otherwise buying and selling meet in one object exactly if all rates are equal; if
they do not meet, the exact prices differ too, and so does their deviation if there is one; and if all
rates differ, objects that are listed in another order are chosen all the same. -/
theorem selectRoute_extremes (pool : Object → Pool) (hlength : 2 ≤ objects.length) :
    ((∃ e, selectRoute (objects.map pool) = .error e ∧ e.kindName = "PoolMathError") ↔
      ∃ o ∈ objects, (pool o).reserveB = 0) ∧
    ((∀ o ∈ objects, (pool o).reserveB ≠ 0) →
      (∀ o ∈ objects, (pool o).spotRate Pool.rateMultiplier = .ok (pool o).rate) ∧
      ∃ route source target, selectRoute (objects.map pool) = .ok route ∧
        route.Chooses pool objects source target ∧
        (route.isTrivial = true ↔ source = target) ∧
        (source = target ↔ ∀ a ∈ objects, ∀ b ∈ objects, (pool a).rate = (pool b).rate) ∧
        (source ≠ target →
          (pool source).reserveA * (pool target).reserveB <
            (pool target).reserveA * (pool source).reserveB ∧
          ∀ ratio, deviationRatio (pool source) (pool target) = .ok ratio →
            -1000000 ≤ ratio ∧ ratio ≤ -1) ∧
        ∀ listed, objects.Perm listed → (objects.map fun o => (pool o).rate).Nodup →
          ∃ route', selectRoute (listed.map pool) = .ok route' ∧
            route'.Chooses pool listed source target) := by
  constructor
  · constructor
    · rintro ⟨e, he, -⟩
      by_contra hpriced
      obtain ⟨route, -, -, hok, -⟩ := selectRoute_chooses hlength
        fun o ho hb => hpriced ⟨o, ho, hb⟩
      rw [hok] at he
      cases he
    · intro h
      obtain ⟨o, -, -, herror⟩ := selectRoute_unpriceable hlength h
      exact ⟨_, herror, rfl⟩
  · intro hpriced
    refine ⟨fun o ho => ?_, ?_⟩
    · rw [Pool.spotRate_eq, if_neg (hpriced o ho)]
    · obtain ⟨route, source, target, hroute, h⟩ := selectRoute_chooses hlength hpriced
      refine ⟨route, source, target, hroute, h, h.meet_iff.1, h.meet_iff.2, ?_, ?_⟩
      · intro hne
        have hprice := h.price_lt hpriced hne
        exact ⟨hprice, fun ratio => deviationRatio_mem_of_price_lt hprice⟩
      · intro listed hp hd
        obtain ⟨route', source', target', hroute', h'⟩ := selectRoute_chooses
          (hp.length_eq ▸ hlength) fun o ho => hpriced o (hp.mem_iff.2 ho)
        obtain ⟨rfl, rfl⟩ := h.eq_of_perm h' hp hd
        exact ⟨route', hroute', h'⟩

end

/-- The pool that buys ether and the one that sells it. -/
def etherPools (sells : Bool) : Pool := if sells then etherSeller else etherBuyer

/-- The buyer is listed twice, before the seller and behind it; without the second time the order in which
both are listed does not matter. -/
theorem ether_extremes :
    (2 ≤ [false, true, false].length ∧
      ∀ o ∈ [false, true, false], (etherPools o).reserveB ≠ 0) ∧
    (∃ route, selectRoute ([false, true, false].map etherPools) = .ok route ∧
      route.Chooses etherPools [false, true, false] true false ∧ route.isTrivial = false) ∧
    ∃ route, selectRoute ([true, false].map etherPools) = .ok route ∧
      ∃ source target, source ≠ target ∧ route.Chooses etherPools [true, false] source target := by
  have hpriced : ∀ o, (etherPools o).reserveB ≠ 0 := by decide
  have hrates : (etherPools true).rate ≠ (etherPools false).rate := by decide +kernel
  have hlength : 2 ≤ [false, true, false].length := by decide
  refine ⟨⟨hlength, fun o _ => hpriced o⟩, ?_, ?_⟩
  · obtain ⟨-, route, source, target, hroute, h, htrivial, hmeet, hapart, -⟩ :=
      (selectRoute_extremes etherPools hlength).2 fun o _ => hpriced o
    have hne : source ≠ target := by
      intro heq
      exact hrates (hmeet.1 heq true (by decide) false (by decide))
    have hprice := (hapart hne).1
    have hnot : route.isTrivial = false := by
      rw [Bool.eq_false_iff]
      exact fun ht => hne (htrivial.1 ht)
    cases source with
    | true =>
      cases target with
      | true => exact absurd rfl hne
      | false => exact ⟨route, hroute, h, hnot⟩
    | false =>
      cases target with
      | true => exact absurd hprice (by decide)
      | false => exact absurd rfl hne
  · have hpair : 2 ≤ [false, true].length := by decide
    obtain ⟨-, route, source, target, -, -, -, hmeet, -, hperm⟩ :=
      (selectRoute_extremes etherPools hpair).2 fun o _ => hpriced o
    obtain ⟨route', hroute', h'⟩ := hperm [true, false] (.swap true false []) (by decide +kernel)
    refine ⟨route', hroute', source, target, ?_, h'⟩
    intro heq
    exact hrates (hmeet.1 heq true (by decide) false (by decide))

/-! ## Pools of the list -/

/-- Every route is chosen among the pools that are listed. -/
theorem exists_chooses {pools : List Pool} {route : Route} (h : selectRoute pools = .ok route) :
    ∃ source target, route.Chooses id pools source target := by
  have hlength : 2 ≤ pools.length := by
    by_contra hshort
    rw [selectRoute_eq_error_of_short (by omega)] at h
    cases h
  have hpriced : ∀ p ∈ pools, (id p).reserveB ≠ 0 := by
    intro p hp hb
    obtain ⟨q, -, -, herror⟩ := selectRoute_unpriceable hlength ⟨p, hp, hb⟩
    rw [List.map_id, h] at herror
    cases herror
  obtain ⟨route', source, target, hroute, hchooses⟩ := selectRoute_chooses hlength hpriced
  rw [List.map_id, h] at hroute
  cases hroute
  exact ⟨source, target, hchooses⟩

/-- Both ends of a route are pools of the list, at their positions. -/
theorem selectRoute_getElem? {pools : List Pool} {route : Route}
    (h : selectRoute pools = .ok route) :
    pools[route.source.position]? = some route.source.pool ∧
      pools[route.target.position]? = some route.target.pool := by
  obtain ⟨source, target, hc⟩ := exists_chooses h
  have hs : route.source.pool = source := congrArg Rated.pool hc.source_eq
  have ht : route.target.pool = target := congrArg Rated.pool hc.target_eq
  rw [hs, ht]
  exact ⟨hc.cheapest.getElem?_eq, hc.dearest.getElem?_eq⟩

/-- **A route that is not trivial joins two different pools of the list.** -/
theorem selectRoute_distinct {pools : List Pool} {route : Route}
    (h : selectRoute pools = .ok route) (hne : route.isTrivial = false) {κ : Type} {key : Pool → κ}
    (hk : (pools.map key).Nodup) :
    route.source.pool ∈ pools ∧ route.target.pool ∈ pools ∧
      key route.source.pool ≠ key route.target.pool := by
  obtain ⟨hs, ht⟩ := selectRoute_getElem? h
  refine ⟨List.mem_of_getElem? hs, List.mem_of_getElem? ht, fun heq => ?_⟩
  have hs' : (pools.map key)[route.source.position]? = some (key route.source.pool) := by simp [hs]
  have ht' : (pools.map key)[route.target.position]? = some (key route.target.pool) := by simp [ht]
  obtain ⟨h1, e1⟩ := List.getElem?_eq_some_iff.1 hs'
  obtain ⟨h2, e2⟩ := List.getElem?_eq_some_iff.1 ht'
  have hpos := (List.getElem_inj hk).1 (e1.trans (heq.trans e2.symm))
  simp [Route.isTrivial, hpos] at hne

end CrossVenue
