import CrossVenue.Proofs.Address.Judged
import CrossVenue.Proofs.Venue.Dispatcher
import CrossVenue.Proofs.Venue.State
import CrossVenue.Proofs.Venue.Transfer

/-!
# Messages that are composed or refused

While no router is configured, a swap whose parts can be told is composed or rejected by the venue that it
names, and a transfer of what a presentable pool holds is composed or rejected.

* `Swap.Sayable` : a swap whose parts can stand in messages;
* `Raydium.answered_composeSwap`, `Astroport.answered_composeSwap` : swaps by venue;
* `Dispatcher.answered_composeSwap` : swaps on the venue that they name, if there is one;
* `Transfer.answered_compose` : transfers.
-/

set_option autoImplicit false

namespace CrossVenue

/-- A swap whose parts can stand in messages. -/
structure Swap.Sayable (swap : Swap) : Prop where
  venue : swap.venue.isPlain = true
  pair : swap.pair.isPlain = true
  denom : swap.denom.isPlain = true
  amount : Number.isWritable swap.amount = true
  account : ∀ a ∈ swap.senderSvm, a.isPlain = true ∧ a.length < Number.tooLong

variable {room : Room} {r : Registry} {swap : Swap}

/-! ## Raydium -/

namespace Raydium

theorem sided?_mem {pool : RaydiumPool} {mint : Text} {side : Sided}
    (h : sided? pool mint = some side) :
    side.inputMint ∈ pool.addresses ∧ side.outputMint ∈ pool.addresses ∧
      side.inputVault ∈ pool.addresses ∧ side.outputVault ∈ pool.addresses := by
  unfold sided? at h
  split at h
  · rename_i hmint
    cases h
    simp [RaydiumPool.addresses, hmint]
  split at h
  · rename_i hmint
    cases h
    simp [RaydiumPool.addresses, hmint]
  · cases h

section

variable (hr : r.Sound)

include hr

theorem isKey_programs :
    IsKey r.raydium.programId ∧ IsKey r.raydium.tokenProgramId ∧ IsKey r.raydium.ataProgramId ∧
      IsKey r.raydium.systemProgramId := by
  have hprograms := hr.programs
  simp only [RaydiumConfig.programs, List.forall_mem_cons] at hprograms
  obtain ⟨hprogram, htoken, hata, hsystem, -⟩ := hprograms
  exact ⟨hprogram, htoken, hata, hsystem⟩

theorem judged_tokenAccountOf (sender : Pubkey) {mint : Text} (hm : IsKey mint) :
    Judged (tokenAccountOf r.raydium sender mint) := by
  obtain ⟨-, htoken, hata, -⟩ := isKey_programs hr
  exact judged_associatedTokenAddress sender hm htoken hata

section

variable {sender : Pubkey} {pool : RaydiumPool} (hpool : ∀ a ∈ pool.addresses, IsKey a)
  {mint : Text} {amountIn least : Int}

include hpool

theorem judged_swapInstructions (hm : mint.isPlain = true)
    (hamount : Number.isWritable amountIn = true) (hleast : Number.isWritable least = true) :
    Judged (swapInstructions r sender pool mint amountIn least) := by
  have hword : maxWord64 ≤ maxWord := by decide
  unfold swapInstructions
  refine (judged_checkAmount hr.raydium_name rfl hamount hword).bind fun _ _ => ?_
  refine (judged_checkAmount hr.raydium_name rfl hleast hword).bind fun _ _ => ?_
  split
  · have hstate := isPlain_of_isKey (hpool pool.poolState (by simp [RaydiumPool.addresses]))
    exact judged_rejectAt hr.raydium_name (by simp [PairFault.sentence, hm, hstate])
  · rename_i side hside
    obtain ⟨hinput, houtput, -, -⟩ := sided?_mem hside
    refine (judged_tokenAccountOf hr sender (hpool _ hinput)).bind fun _ _ => ?_
    exact (judged_tokenAccountOf hr sender (hpool _ houtput)).bind fun _ _ => .of_ok rfl

/-- All addresses that a swap touches spell keys. -/
theorem isKey_of_swapInstructions {ixs : List (Instruction Text Bool)}
    (h : swapInstructions r sender pool mint amountIn least = .ok ixs) :
    ∀ ix ∈ ixs, ∀ a ∈ ix.addresses, IsKey a := by
  obtain ⟨n, m, side, input, output, -, -, hside, -, -, rfl⟩ := swapInstructions_eq_ok_iff.1 h
  obtain ⟨hprogram, htoken, hata, hsystem⟩ := isKey_programs hr
  obtain ⟨hinput, houtput, hinputVault, houtputVault⟩ := sided?_mem hside
  have hsides := And.intro (hpool _ hinput) (hpool _ houtput)
  have hvaults := And.intro (hpool _ hinputVault) (hpool _ houtputVault)
  simp only [RaydiumPool.addresses, List.forall_mem_cons] at hpool
  simp [createAccount, swapBaseInput, Instruction.addresses, readOnly, writable, signing,
    isKey_toText, hprogram, htoken, hata, hsystem, hsides, hvaults, hpool]

end

theorem judged_requestInstructions (h : swap.Sayable) : Judged (requestInstructions r swap) := by
  unfold requestInstructions
  split
  · exact judged_rejectAt hr.raydium_name (by simp [AddressFault.sentence])
  · rename_i account haccount
    obtain ⟨hplain, hlength⟩ := h.account account (nonEmpty?_eq_some_iff.1 haccount).1
    have hupper : maxSwapAmount ≤ maxWord := by decide
    refine (Pubkey.judged_ofText hplain hlength).bind fun sender _ => ?_
    refine (Registry.judged_raydiumPool h.pair hr).bind fun pool hpool => ?_
    refine (judged_checkAmount hr.raydium_name rfl h.amount hupper).bind fun amount hamount => ?_
    have hle := (checkAmount_eq_ok_iff.1 hamount).2.trans hupper
    exact judged_swapInstructions hr (hr.isKey_of_raydiumPool hpool) (hr.isPlain_svmMint h.denom)
      (Number.isWritable_of_le_maxWord ((Nat.div_le_self _ _).trans hle))
      (Number.isWritable_of_le_maxWord (Nat.zero_le _))

theorem isKey_of_requestInstructions {ixs : List (Instruction Text Bool)}
    (h : requestInstructions r swap = .ok ixs) : ∀ ix ∈ ixs, ∀ a ∈ ix.addresses, IsKey a := by
  obtain ⟨-, sender, pool, n, -, -, hpool, -, hswap⟩ := requestInstructions_eq_ok_iff.1 h
  exact isKey_of_swapInstructions hr (hr.isKey_of_raydiumPool hpool) hswap

/-- **A swap on Raydium is composed or rejected**, if the budget is read: building never fails, for all
addresses of the instructions spell keys. -/
theorem answered_composeSwap {budget : Json} {units : Nat}
    (hb : readBudget (budgetOr r budget) = .ok units) (h : swap.Sayable) :
    Answered (composeSwap room r budget swap) := by
  have hrequest := (judged_requestInstructions hr h).lift
  unfold composeSwap
  refine FailsOnly.bind (hrequest.bind fun ixs hixs => ?_) fun tx htx => ?_
  · have hkeys := isKey_of_requestInstructions hr (lift_eq_ok_iff.1 hixs)
    exact .of_ok (build_written_iff.2 ⟨hkeys, units, hb, rfl⟩)
  · exact FailsOnly.bind (.of_ok (ofPayload_of_swapTransaction htx room _ _)) fun _ _ => .of_ok rfl

end

end Raydium

/-! ## Astroport and Uniswap -/

theorem Astroport.answered_composeSwap (hr : r.Sound) (h : swap.Sayable) :
    Answered (composeSwap room r swap) := by
  unfold composeSwap
  refine (Registry.judged_astroportContract h.pair hr).lift.bind fun contract _ => ?_
  refine (judged_checkAmount hr.astroport_name rfl h.amount (by decide)).lift.bind fun n _ => ?_
  have hread := isReadable_swapPayload r swap contract n room.ample
  exact FailsOnly.bind (.of_ok (PlaneInstruction.ofPayload_of_isReadable hread)) fun _ _ => .of_ok rfl

/-- Without a router there is nothing to compose. -/
theorem Uniswap.answered_composeSwap (hr : r.Sound) (hrouter : nonEmpty? r.uniswap.router = none)
    (swap : Swap) : Answered (composeSwap room r swap) := by
  have hprepare : Judged (prepare r swap) := by
    rw [prepare, hrouter]
    exact judged_rejectAt hr.uniswap_name (by simp [VenueFault.sentence])
  refine hprepare.lift.bind fun p hp => ?_
  rw [lift_eq_ok_iff, prepare, hrouter] at hp
  cases hp

/-! ## The dispatcher -/

namespace Dispatcher

/-- The venues of a registry. -/
def venues (r : Registry) (budget : Json) : List Composer :=
  [.raydium r budget, .astroport r, .uniswap r]

/-- A dispatcher that knows no other composers than given ones. -/
def KnowsOnly (known : List Composer) (d : Dispatcher) : Prop :=
  ∀ e ∈ d.entries.values, e.composer ∈ known

theorem KnowsOnly.register {known : List Composer} {d : Dispatcher} (h : d.KnowsOnly known)
    {c : Composer} (hc : c ∈ known) : (d.register c).KnowsOnly known := by
  intro e he
  rcases Table.mem_values_set he with rfl | he
  · exact hc
  rcases Table.mem_values_set he with rfl | he
  · exact hc
  · exact h e he

theorem knowsOnly_ofRegistry (r : Registry) (budget : Json) :
    (ofRegistry r budget).KnowsOnly (venues r budget) := by
  have hempty : empty.KnowsOnly (venues r budget) := by
    intro e he
    cases he
  exact ((hempty.register (by simp [venues])).register (by simp [venues])).register (by simp [venues])

/-- Entries are taken over from the list, one by one. -/
theorem mem_of_mem_distinct {entries : List Registered} {e : Registered}
    (he : e ∈ distinct entries) : e ∈ entries := by
  have hfold : ∀ {rest seen : List Registered},
      e ∈ rest.foldl (fun seen e => if seen.any (·.serial == e.serial) then seen else seen ++ [e])
        seen → e ∈ seen ∨ e ∈ rest := by
    intro rest
    induction rest with
    | nil => exact .inl
    | cons x rest ih =>
      intro seen h
      rcases ih h with h | h
      · dsimp only at h
        split at h
        · exact .inl h
        · rw [List.mem_append, List.mem_singleton] at h
          rcases h with h | rfl
          · exact .inl h
          · exact .inr List.mem_cons_self
      · exact .inr (List.mem_cons_of_mem x h)
  exact (hfold he).resolve_left List.not_mem_nil

section

variable {known : List Composer} {d : Dispatcher} (h : d.KnowsOnly known)

include h

theorem KnowsOnly.composer_mem {name : Text} {c : Composer} (hc : d.composer name = .ok c) :
    c ∈ known := by
  unfold composer at hc
  split at hc
  · rename_i hfound
    cases hc
    obtain ⟨e, he, rfl⟩ := Option.map_eq_some_iff.1 hfound
    exact h e (Table.mem_values_of_lookup he)
  · cases hc

theorem KnowsOnly.composers_subset : ∀ c ∈ d.composers, c ∈ known := by
  intro c hc
  obtain ⟨e, he, rfl⟩ := List.mem_map.1 hc
  exact h e (mem_of_mem_distinct he)

/-- A name that stands for no composer is rejected with the names of all composers. -/
theorem KnowsOnly.judged_composer (hknown : ∀ c ∈ known, c.name.isPlain = true) {name : Text}
    (hname : name.isPlain = true) : Judged (d.composer name) := by
  unfold composer
  split
  · exact .of_ok rfl
  · refine judged_reject ?_
    have hlist : (Text.intercalate ", " ((d.composers.map Composer.qualifiedName).map
        fun s => "'" ++ s ++ "'")).isPlain = true := by
      refine Text.isPlain_intercalate rfl ?_
      simp only [List.forall_mem_map]
      intro c hc
      have hc' := hknown c (h.composers_subset c hc)
      simp [Composer.qualifiedName, hc']
    simp only [sayable_venue, VenueFault.sentence, Sentence.sayable_cons, Sentence.sayable_nil,
      Piece.sayable_text, Text.isPlain_ofString, hname, hlist, and_self]

end

/-- **A swap is composed or rejected by the venue that it names**, if there is one. -/
theorem answered_composeSwap (hr : r.Sound) (hrouter : nonEmpty? r.uniswap.router = none)
    {budget : Json} {units : Nat} (hb : readBudget (Raydium.budgetOr r budget) = .ok units)
    (h : swap.Sayable) : Answered ((ofRegistry r budget).composeSwap room swap) := by
  have hknows := knowsOnly_ofRegistry r budget
  have hnames : ∀ c ∈ venues r budget, c.name.isPlain = true := by
    simp [venues, Composer.name, hr.raydium_name, hr.astroport_name, hr.uniswap_name]
  unfold composeSwap
  refine (hknows.judged_composer hnames h.venue).lift.bind fun c hc => ?_
  have hmem := hknows.composer_mem (lift_eq_ok_iff.1 hc)
  simp only [venues, List.mem_cons, List.not_mem_nil, or_false] at hmem
  rcases hmem with rfl | rfl | rfl
  · exact Raydium.answered_composeSwap hr hb h
  · exact Astroport.answered_composeSwap hr h
  · exact Uniswap.answered_composeSwap hr hrouter swap

end Dispatcher

/-! ## Transfers -/

theorem Plane.Names.isAtom {plane : Plane} {v : Json} (h : plane.Names v) : v.isAtom = true := by
  rcases h with ⟨s, rfl⟩ | ⟨-, h, -⟩
  · rfl
  · exact h

/-- What is neither a list nor an object is not nested. -/
theorem Json.depth_of_isAtom {v : Json} (h : v.isAtom = true) : v.depth = 0 := by
  cases v with
  | arr items => cases h
  | obj fields => cases h
  | _ => rfl

namespace Transfer

theorem exists_enteringFactor (r : Registry) (target : Plane) {denom : Json}
    (h : denom.isAtom = true) : ∃ factor, enteringFactor r target denom = .ok factor := by
  unfold enteringFactor factorOfSymbol
  split
  · split
    · split <;> exact ⟨_, rfl⟩
    · cases h
    · cases h
    · exact ⟨_, rfl⟩
  · exact ⟨_, rfl⟩

/-- The bank's name of what a plane holds can be written too. -/
theorem exists_bankDenom {source : Plane} {denom : Json} (h : source.Names denom) :
    ∃ name, bankDenom source denom = .ok name ∧ name.isAtom = true ∧ name.isWritable = true := by
  rcases h with ⟨s, rfl⟩ | ⟨rfl, hatom, hwritable⟩
  · exact ⟨_, bankDenom_str source s, rfl, rfl⟩
  · exact ⟨denom, rfl, hatom, hwritable⟩

/-- **What is sent of an asset that a plane holds is written**, in the log and in the message. -/
theorem exists_send (room : Room) (sender : Text) {source : Plane} {denom : Json}
    (h : source.Names denom) (target : Plane) (amount : Text) :
    ∃ i, send room (.str sender) source target denom amount = .ok i := by
  obtain ⟨name, hname, hatom, hwritable⟩ := exists_bankDenom h
  have hline : (sentLine source target name amount).isWritable = true := by
    simp [sentLine, Json.inSentence_isWritable hwritable]
  have hpayload : (payload (.str sender) source target name amount).isWritable = true := by
    simp [payload, Json.isWritable_obj_iff, Json.isWritable_str, hwritable]
  have hdepth : (payload (.str sender) source target name amount).depth = 2 := by
    simp [payload, Json.depth, Json.fieldsDepth, Json.depth_of_isAtom hatom]
  refine ⟨.carrying .cosmos PlaneInstruction.invokeCosmos (payload (.str sender) source target name amount),
    bind_eq_ok_iff.2 ⟨name, hname, ?_⟩⟩
  refine bind_eq_ok_iff.2 ⟨(), requireWritable_eq_ok_iff.2 hline, ?_⟩
  have hroom := room.ample
  rw [PlaneInstruction.ofPayload, Json.encodeIn_eq hpayload, if_pos (by omega)]
  rfl

/-- **A transfer of what a plane holds is composed or rejected.** -/
theorem answered_compose (room : Room) (r : Registry) (sender : Text) {source target : Plane} {denom : Json}
    (h : source.Names denom) {n : Nat} (hn : n ≤ maxWord) :
    Answered (compose room r (.str sender) (.str source.name) (.str target.name) denom n) := by
  obtain ⟨factor, hfactor⟩ := exists_enteringFactor r target h.isAtom
  have hmoved : movable (leavingFactor r source denom) factor n ≤ maxWord :=
    (movable_le _ _ n).trans hn
  unfold compose
  rw [planeOf_name, planeOf_name]
  refine FailsOnly.bind (.of_ok (a := source) rfl) fun _ heq => ?_
  cases heq
  refine FailsOnly.bind (.of_ok (a := target) rfl) fun _ heq => ?_
  cases heq
  split
  · exact absurd (Int.natCast_nonneg n) (by omega)
  refine FailsOnly.bind (.of_ok hfactor) fun _ heq => ?_
  cases hfactor.symm.trans heq
  simp only [Int.toNat_natCast]
  split
  · exact answered_failWith (by
      simp [PoolFault.sentence, Number.isWritable_of_le_maxWord hmoved])
  · obtain ⟨i, hi⟩ := exists_send room sender h target
      (toString (movable (leavingFactor r source denom) factor n))
    exact .of_ok hi

end Transfer

/-! ## What is composed is plain -/

/-- Bodies are written in base64, so no half of a pair stands in an instruction. -/
theorem PlaneInstruction.isPlain_carrying (plane : Plane) {action : Text}
    (h : action.isPlain = true) (payload : Json) :
    (carrying plane action payload).toJson.isPlain = true := by
  simp [carrying, toJson, Json.isPlain, Json.every, Json.everyField, h]

theorem isPlain_of_mem_singleton {plane : Plane} {payload : Json} {i : PlaneInstruction}
    (h : i ∈ [PlaneInstruction.carrying plane PlaneInstruction.invokeMachine payload]) :
    i.toJson.isPlain = true := by
  rw [List.mem_singleton.1 h]
  exact PlaneInstruction.isPlain_carrying plane rfl payload

/-- What the venues of a registry compose is plain; those of other kinds may compose anything. -/
theorem Dispatcher.isPlain_of_composeSwap {budget : Json} {is : List PlaneInstruction}
    (h : (ofRegistry r budget).composeSwap room swap = .ok is) : ∀ i ∈ is, i.toJson.isPlain = true := by
  intro i hi
  obtain ⟨c, hc, h⟩ := bind_eq_ok_iff.1 h
  have hmem := (knowsOnly_ofRegistry r budget).composer_mem (lift_eq_ok_iff.1 hc)
  simp only [venues, List.mem_cons, List.not_mem_nil, or_false] at hmem
  rcases hmem with rfl | rfl | rfl
  · obtain ⟨_, -, rfl⟩ := Raydium.composeSwap_eq_ok_iff.1 h
    exact isPlain_of_mem_singleton hi
  · obtain ⟨_, _, -, -, rfl⟩ := Astroport.composeSwap_eq_ok_iff.1 h
    exact isPlain_of_mem_singleton hi
  · obtain ⟨_, _, _, -, -, -, rfl⟩ := Uniswap.composeSwap_eq_ok_iff.1 h
    exact isPlain_of_mem_singleton hi

theorem Transfer.isPlain_of_compose {sender source target denom : Json} {amount : Int}
    {i : PlaneInstruction} (h : compose room r sender source target denom amount = .ok i) :
    i.toJson.isPlain = true := by
  obtain ⟨_, _, _, _, -, -, -, -, -, rfl⟩ := compose_eq_ok h
  exact PlaneInstruction.isPlain_carrying _ rfl _

end CrossVenue
