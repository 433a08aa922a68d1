import CrossVenue.Proofs.Computation
import CrossVenue.Proofs.Text.Trimmed
import CrossVenue.Registry.Builtin
import CrossVenue.Strategy.Basic

/-!
# Venues by name

A registration gives its composer two names and takes them from whatever had them; all other names stand
for what they stood for.  A name is looked up without the blanks at its ends and without regard to case,
so a name that has no such blanks is found however it is written.

* `Text.Renders`, `Text.renders_iff` : other ways to write a name;
* `Dispatcher.composer?_registerAll` : after any registrations a name stands for the last that has it;
* `Dispatcher.registers_of_register` : what one registration does to every name;
* `Strategy.quotePools_of_kept` : pools are quoted by the venues of the registry, as long as none of these
  has taken a name from one that was registered before it;
* `venues_named` : all registrations, and all fresh dispatchers.
-/

set_option autoImplicit false

namespace CrossVenue

/-! ## Ways to write a name -/

namespace Text

/-- Has a text no blank at its ends? -/
def IsTrimmed (t : Text) : Prop := t.trimmed = t

instance (t : Text) : Decidable t.IsTrimmed := inferInstanceAs (Decidable (_ = _))

/-- Are all code points of a text blanks? -/
def IsSpace (t : Text) : Prop := ∀ p ∈ t.toList, p.isBlank = true

/-- Is a text a name in some letter case, with any blanks around it? -/
def Renders (given own : Text) : Prop :=
  ∃ before middle after : Text, given = before ++ middle ++ after ∧ before.IsSpace ∧ after.IsSpace ∧
    lower middle = lower own

theorem isTrimmed_trimmed (t : Text) : t.trimmed.IsTrimmed := Text.ext (trim_trim _ _)

theorem isTrimmed_lower_iff {t : Text} : (lower t).IsTrimmed ↔ t.IsTrimmed := trimmed_lower_iff

theorem trimmed_append {before middle after : Text} (hbefore : before.IsSpace) (hafter : after.IsSpace) :
    (before ++ middle ++ after).trimmed = middle.trimmed := Text.ext (trim_append hbefore hafter)

end Text

namespace Dispatcher

open Text

/-- Names are looked up under keys without blanks at their ends. -/
theorem isTrimmed_lookupKey (name : Text) : (lookupKey name).IsTrimmed :=
  isTrimmed_lower_iff.2 (isTrimmed_trimmed name)

theorem lookupKey_of_isTrimmed {name : Text} (h : name.IsTrimmed) : lookupKey name = lower name := by
  rw [lookupKey, h]

/-- **The ways to write a name are those that are looked up alike.** -/
theorem renders_iff {given own : Text} (h : own.IsTrimmed) :
    given.Renders own ↔ lookupKey given = lookupKey own := by
  rw [lookupKey_of_isTrimmed h]
  constructor
  · rintro ⟨before, middle, after, rfl, hbefore, hafter, hlower⟩
    have hmiddle : middle.IsTrimmed := by
      rw [← isTrimmed_lower_iff, hlower, isTrimmed_lower_iff]
      exact h
    rw [lookupKey, trimmed_append hbefore hafter, hmiddle, hlower]
  · intro hkey
    obtain ⟨before, after, hgiven, hbefore, hafter⟩ := exists_trim CodePoint.isBlank given.toList
    exact ⟨⟨before⟩, given.trimmed, ⟨after⟩, Text.ext hgiven, hbefore, hafter, hkey⟩

/-! ## Registrations -/

/-- Is a key one of the two that a composer is registered under? -/
def IsKeyOf (key : Text) (c : Composer) : Prop := key = nameKey c ∨ key = qualifiedKey c

instance (key : Text) (c : Composer) : Decidable (IsKeyOf key c) :=
  inferInstanceAs (Decidable (_ ∨ _))

/-- The names of a composer. -/
def ownNames (c : Composer) : List Text := [c.name, c.qualifiedName]

/-- The dispatcher with composers registered in order. -/
def registerAll (d : Dispatcher) (cs : List Composer) : Dispatcher := cs.foldl register d

theorem registerAll_concat (d : Dispatcher) (cs : List Composer) (c : Composer) :
    d.registerAll (cs ++ [c]) = (d.registerAll cs).register c := List.foldl_concat ..

theorem composer?_register (d : Dispatcher) (c : Composer) (name : Text) :
    (d.register c).composer? name =
      if IsKeyOf (lookupKey name) c then some c else d.composer? name := by
  rw [composer?, register_lookup]
  change Option.map _ (if IsKeyOf (lookupKey name) c then _ else _) = _
  split <;> rfl

/-- **After any registrations a name stands for the last that has it**, and for what it stood before if
none has. -/
theorem composer?_registerAll (d : Dispatcher) (cs : List Composer) (name : Text) :
    (d.registerAll cs).composer? name =
      (cs.reverse.find? fun c => IsKeyOf (lookupKey name) c).or (d.composer? name) := by
  induction cs using List.reverseRecOn with
  | nil => rfl
  | append_singleton cs c ih =>
    rw [registerAll_concat, composer?_register, ih, List.reverse_concat, List.find?_cons]
    by_cases h : IsKeyOf (lookupKey name) c <;> simp [h]

theorem composer_eq_ok_iff {d : Dispatcher} {name : Text} {c : Composer} :
    d.composer name = .ok c ↔ d.composer? name = some c := by
  unfold composer
  cases d.composer? name <;> simp [reject]

theorem isKeyOf_iff {key : Text} {c : Composer} : IsKeyOf key c ↔ ∃ own ∈ ownNames c, key = lower own := by
  simp [IsKeyOf, ownNames, nameKey, qualifiedKey]

/-- A name that is looked up under a composer's key is looked up as one of the composer's own names. -/
theorem exists_own_of_isKeyOf {name : Text} {c : Composer} (h : IsKeyOf (lookupKey name) c) :
    ∃ own ∈ ownNames c, own.IsTrimmed ∧ lookupKey name = lookupKey own := by
  obtain ⟨own, hown, hkey⟩ := isKeyOf_iff.1 h
  have htrimmed : own.IsTrimmed := by
    rw [← isTrimmed_lower_iff, ← hkey]
    exact isTrimmed_lookupKey name
  exact ⟨own, hown, htrimmed, hkey.trans (lookupKey_of_isTrimmed htrimmed).symm⟩

/-- What a registration does to every name. -/
structure Registers (before : Dispatcher) (c : Composer) (after : Dispatcher) : Prop where
  /-- The composer is found under its own names, however they are written. -/
  found : ∀ own ∈ ownNames c, own.IsTrimmed → ∀ given : Text, given.Renders own →
    after.composer given = .ok c
  /-- Names that are looked up otherwise stand for what they stood for, or for nothing as before. -/
  kept : ∀ given : Text, (∀ own ∈ ownNames c, lookupKey given ≠ lookupKey own) →
    after.composer? given = before.composer? given

/-- **One registration.** -/
theorem registers_of_register (d : Dispatcher) (c : Composer) : Registers d c (d.register c) where
  found own hown htrimmed given hgiven := by
    have hkey : lookupKey given = lower own := by
      rw [(renders_iff htrimmed).1 hgiven, lookupKey_of_isTrimmed htrimmed]
    rw [composer_eq_ok_iff, composer?_register, if_pos (isKeyOf_iff.2 ⟨own, hown, hkey⟩)]
  kept given hother := by
    rw [composer?_register, if_neg]
    intro hkey
    obtain ⟨own, hown, -, heq⟩ := exists_own_of_isKeyOf hkey
    exact hother own hown heq

end Dispatcher

/-! ## Fresh dispatchers -/

namespace Registry

open Dispatcher Text

/-- Has every venue of a registry a name without blanks at its ends? -/
structure Trimmed (r : Registry) : Prop where
  raydium : r.raydium.name.IsTrimmed
  astroport : r.astroport.name.IsTrimmed
  uniswap : r.uniswap.name.IsTrimmed

/-- Is the first venue's name none of the names of the venues that are registered after it? -/
def KeepsRaydium (r : Registry) : Prop :=
  ¬ IsKeyOf (lower r.raydium.name) (.astroport r) ∧ ¬ IsKeyOf (lower r.raydium.name) (.uniswap r)

/-- Is the second venue's name no name of the third one? -/
def KeepsAstroport (r : Registry) : Prop := ¬ IsKeyOf (lower r.astroport.name) (.uniswap r)

end Registry

namespace Dispatcher

open Text

theorem composer?_ofRegistry (r : Registry) (budget : Json) (name : Text) :
    (ofRegistry r budget).composer? name =
      if IsKeyOf (lookupKey name) (.uniswap r) then some (.uniswap r)
      else if IsKeyOf (lookupKey name) (.astroport r) then some (.astroport r)
      else if IsKeyOf (lookupKey name) (.raydium r budget) then some (.raydium r budget)
      else none := by
  rw [ofRegistry, composer?_register, composer?_register, composer?_register]
  rfl

/-- Which venues of a fresh dispatcher are found under their names. -/
structure FindsVenues (r : Registry) (budget : Json) : Prop where
  raydium_iff : (ofRegistry r budget).composer r.raydium.name = .ok (.raydium r budget) ↔ r.KeepsRaydium
  astroport_iff : (ofRegistry r budget).composer r.astroport.name = .ok (.astroport r) ↔ r.KeepsAstroport
  uniswap : (ofRegistry r budget).composer r.uniswap.name = .ok (.uniswap r)

theorem findsVenues {r : Registry} (hr : r.Trimmed) (budget : Json) : FindsVenues r budget where
  raydium_iff := by
    have hown : IsKeyOf (lower r.raydium.name) (.raydium r budget) := .inl rfl
    rw [composer_eq_ok_iff, composer?_ofRegistry, lookupKey_of_isTrimmed hr.raydium, Registry.KeepsRaydium]
    split
    · simp [*]
    · split
      · simp [*]
      · simp [*]
  astroport_iff := by
    have hown : IsKeyOf (lower r.astroport.name) (.astroport r) := .inl rfl
    rw [composer_eq_ok_iff, composer?_ofRegistry, lookupKey_of_isTrimmed hr.astroport,
      Registry.KeepsAstroport]
    split
    · simp [*]
    · simp [*]
  uniswap := by
    have hown : IsKeyOf (lower r.uniswap.name) (.uniswap r) := .inl rfl
    rw [composer_eq_ok_iff, composer?_ofRegistry, lookupKey_of_isTrimmed hr.uniswap, if_pos hown]

end Dispatcher

/-! ## Quoting -/

namespace Strategy

/-- The pools of reserves, if there are any, asked of the venue itself. -/
def reservePools (s : Strategy) (pair : Option Text) : Option (List Int) → Attempt (List Pool)
  | none => .ok []
  | some [a, b] =>
    match nonEmpty? s.registry.uniswap.router, pair with
    | none, _ => .ok []
    | some _, none => failAt s.registry.uniswap.name (.pair .pairRequired)
    | some _, some pair => do
      let pool ← (Uniswap.poolOfReserves s.registry pair a b : Except Rejection Pool)
      .ok [pool]
  | some reserves => failAt s.registry.uniswap.name (.state (.reservePairLength reserves.length))

/-- The pools of a pair, each asked of its venue itself. -/
def venuePools (room : Room) (s : Strategy) (pair : Option Text) (state : PairState) :
    Attempt (List Pool) := do
  let first ← Astroport.poolOfResponse room s.registry state.astroport
  let second ← Raydium.poolOfRecords room s.registry state.raydium
  let more ← s.reservePools pair state.uniswap
  .ok ([first, second] ++ more)

/-- **Quoting finds the venues**, if each has kept its name. -/
theorem quotePools_of_kept {s : Strategy} (hs : s.registry.Trimmed) (hraydium : s.registry.KeepsRaydium)
    (hastroport : s.registry.KeepsAstroport) (room : Room) (pair : Option Text) (state : PairState) :
    s.quotePools room pair state = s.venuePools room pair state := by
  have hfinds := Dispatcher.findsVenues hs (.int s.settings.svmComputeBudget.val)
  have hqueried : s.queriedPools room state.astroport state.raydium = (do
      let first ← Astroport.poolOfResponse room s.registry state.astroport
      let second ← Raydium.poolOfRecords room s.registry state.raydium
      .ok [first, second]) := by
    rw [queriedPools, dispatcher, hfinds.astroport_iff.2 hastroport, hfinds.raydium_iff.2 hraydium]
    rfl
  have hreserves : ∀ reserves, s.uniswapPools pair reserves = s.reservePools pair (some reserves) := by
    intro reserves
    unfold uniswapPools reservePools
    rw [dispatcher, hfinds.uniswap]
    rcases reserves with _ | ⟨a, _ | ⟨b, _ | ⟨c, rest⟩⟩⟩ <;> rfl
  unfold quotePools venuePools
  rw [hqueried]
  cases state.uniswap with
  | none =>
    rw [bind_assoc]
    simp only [bind_assoc]
    rfl
  | some reserves =>
    simp only [hreserves, bind_assoc]
    rfl

end Strategy

/-! ## All registrations and all fresh dispatchers -/

open Dispatcher Text

/-- **Names of venues**: after any registrations, one more is found under its own names and changes no
other; and the venues of a registry quote its pools on a fresh dispatcher, each as long as it has kept its
name. -/
theorem venues_named :
    (∀ (r : Registry) (budget : Json) (cs : List Composer) (c : Composer),
      Registers ((ofRegistry r budget).registerAll cs) c ((ofRegistry r budget).registerAll (cs ++ [c]))) ∧
    ∀ s : Strategy, s.registry.Trimmed →
      (∀ budget, FindsVenues s.registry budget) ∧
      (s.registry.KeepsRaydium → s.registry.KeepsAstroport →
        ∀ room pair state, s.quotePools room pair state = s.venuePools room pair state) := by
  constructor
  · intro r budget cs c
    rw [registerAll_concat]
    exact registers_of_register _ c
  · intro s hs
    exact ⟨findsVenues hs, Strategy.quotePools_of_kept hs⟩

/-- The built-in registry with another name for its first venue. -/
def raydiumNamed (name : Text) : Registry :=
  { Registry.builtin with raydium := { Registry.builtin.raydium with name := name } }

/-- A second composer for Raydium, whose name differs from that of the first in case alone, takes it over: it
is found however the name is written, other names stand for what they stood for, and a fresh dispatcher of
its registry quotes pools by its venues. -/
theorem ray_two_named :
    let r := raydiumNamed "Ray TWO"
    let cs : List Composer := [.uniswap .builtin, .raydium (raydiumNamed "ray two") .null]
    let before := (ofRegistry .builtin .null).registerAll cs
    let after := (ofRegistry .builtin .null).registerAll (cs ++ [.raydium r (.int 7)])
    after.composer "\t RAY two " = .ok (.raydium r (.int 7)) ∧
      after.composer "svm rAy Two" = .ok (.raydium r (.int 7)) ∧
      after.composer? "Raydium" = before.composer? "Raydium" ∧
      ∀ settings room pair state, (Strategy.mk r settings).quotePools room pair state =
        (Strategy.mk r settings).venuePools room pair state := by
  intro r cs before after
  obtain ⟨hregistered, hquoted⟩ := venues_named
  have hafter : Registers before (.raydium r (.int 7)) after := hregistered .builtin .null cs _
  have hr : r.Trimmed := ⟨by decide +kernel, by decide +kernel, by decide +kernel⟩
  have hraydium : r.KeepsRaydium := ⟨by decide +kernel, by decide +kernel⟩
  have hastroport : r.KeepsAstroport := by
    unfold Registry.KeepsAstroport
    decide +kernel
  have hname : ("Ray TWO" : Text) ∈ ownNames (.raydium r (.int 7)) := List.mem_cons_self
  have hqualified : ("svm Ray TWO" : Text) ∈ ownNames (.raydium r (.int 7)) := by
    decide +kernel
  refine ⟨?_, ?_, ?_, fun settings => (hquoted ⟨r, settings⟩ hr).2 hraydium hastroport⟩
  · exact hafter.found _ hname (by decide +kernel) _ ((renders_iff (by decide +kernel)).2 (by decide +kernel))
  · exact hafter.found _ hqualified (by decide +kernel) _
      ((renders_iff (by decide +kernel)).2 (by decide +kernel))
  · exact hafter.kept "Raydium" (by decide +kernel)

/-- **Names that are lost**: a name with a blank at its end is looked up without it, and stands for another
composer; and a venue that is registered later takes the name of an earlier one that is its qualified name,
though no two of the three venues' names are looked up alike: then pools are never quoted. -/
theorem names_lost :
    let c : Composer := .raydium (raydiumNamed "raydium ") .null
    let r := raydiumNamed "wasm astroport"
    (((ofRegistry .builtin .null).register c).composer c.name = .ok (.raydium .builtin .null) ∧
        Composer.raydium .builtin .null ≠ c) ∧
      [lookupKey r.raydium.name, lookupKey r.astroport.name, lookupKey r.uniswap.name].Nodup ∧
      (ofRegistry r .null).composer r.raydium.name = .ok (.astroport r) ∧
      ∀ settings room pair state pools,
        (Strategy.mk r settings).quotePools room pair state ≠ .ok pools := by
  intro c r
  have htaken : ∀ budget, (ofRegistry r budget).composer r.raydium.name = .ok (.astroport r) := by
    intro budget
    rw [composer_eq_ok_iff, composer?_ofRegistry, if_neg (by decide +kernel), if_pos (by decide +kernel)]
  refine ⟨⟨?_, ?_⟩, by decide +kernel, htaken .null, ?_⟩
  · rw [composer_eq_ok_iff, composer?_register, if_neg (by decide +kernel), composer?_ofRegistry,
      if_neg (by decide +kernel), if_neg (by decide +kernel), if_pos (by decide +kernel)]
  · intro h
    have hname : ("raydium" : Text) = "raydium " := congrArg Composer.name h
    exact absurd hname (by decide +kernel)
  · intro settings room pair state pools h
    simp only [Strategy.quotePools, Strategy.queriedPools, Strategy.dispatcher, bind_eq_ok_iff,
      lift_eq_ok_iff, htaken, Except.ok.injEq] at h
    obtain ⟨_, ⟨_, -, second, rfl, _, -, _, hrecords, -⟩, -⟩ := h
    cases hrecords

end CrossVenue
