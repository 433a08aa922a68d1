import CrossVenue.Proofs.Computation
import CrossVenue.Proofs.Encoding.Words
import CrossVenue.Registry.Builtin
import CrossVenue.Venue.Calldata
import Mathlib.Algebra.Group.Nat.Defs

/-!
# Calls of the router read back

A call is a selector, ten words and the hook data, filled up to whole words.  Every part is read from its
place: signed values from two's complement, addresses from the end of their words, the hook data after
their length.  So a call tells all of its arguments, and what no word holds is refused.

* `bigEndian_naturalWord`, `signed_integerWord`, `drop_addressWord` : a word by itself;
* `RouterCall.wordAt_encode` : a word at its place;
* `RouterCall.decode?_encode`, `RouterCall.encode_injective` : the whole call;
* `swapCalldata_eq`, `swapCalldata_eq_ok_iff` : which arguments are encoded, and to what;
* `calldata_read_back` : what is read from the bytes of all of them.
-/

set_option autoImplicit false

namespace CrossVenue

/-! ## Words -/

theorem naturalWord_length (n : Nat) : (naturalWord n).length = wordSize := Bytes.ofBigEndian_length _ _

theorem integerWord_length (n : Int) : (integerWord n).length = wordSize := Bytes.ofBigEndian_length _ _

theorem addressWord_length {address : Bytes} (h : address.length = 20) :
    (addressWord address).length = wordSize := by
  rw [addressWord, List.length_append, List.length_replicate, h]
  rfl

theorem bigEndian_naturalWord_mod (n : Nat) : Bytes.bigEndian (naturalWord n) = n % 2 ^ 256 :=
  Bytes.bigEndian_ofBigEndian wordSize n

theorem bigEndian_naturalWord {n : Nat} (h : n < 2 ^ 256) : Bytes.bigEndian (naturalWord n) = n :=
  (bigEndian_naturalWord_mod n).trans (Nat.mod_eq_of_lt h)

theorem bigEndian_integerWord (n : Int) :
    Bytes.bigEndian (integerWord n) = (n % (2 * (maxWord + 1))).toNat := by
  refine bigEndian_naturalWord ?_
  unfold maxWord
  omega

/-- A signed word is read back from its two's complement. -/
theorem signed_integerWord {n : Int} (hleast : minWord ≤ n) (hgreatest : n ≤ maxWord) :
    Bytes.signed 256 (Bytes.bigEndian (integerWord n)) = n := by
  have hpow : Nat.pow 2 256 = 2 * (maxWord + 1) := by decide
  have hsize : (2 * (maxWord + 1) : Int) = Nat.pow 2 256 := by
    rw [hpow]
    rfl
  rw [bigEndian_integerWord, hsize]
  unfold minWord at hleast
  exact Bytes.signed_emod (by omega) (by omega)

theorem drop_addressWord {address : Bytes} (h : address.length = 20) :
    (addressWord address).drop 12 = address := by
  rw [addressWord, h]
  exact List.drop_left' List.length_replicate

/-! ## Hook data -/

theorem paddedBytes_length (bs : Bytes) :
    (paddedBytes bs).length = wordSize * ((bs.length + 31) / 32) := by
  rw [paddedBytes, List.length_append, List.length_replicate]
  unfold wordSize
  omega

theorem take_paddedBytes {bs : Bytes} {count : Nat} (h : count ≤ bs.length) :
    (paddedBytes bs).take count = bs.take count := by
  rw [paddedBytes, List.take_append_of_le_length h]

theorem paddedBytes_inj {bs cs : Bytes} (hlength : bs.length = cs.length)
    (h : paddedBytes bs = paddedBytes cs) : bs = cs :=
  (List.append_inj h hlength).1

theorem eq_zero_of_mem_drop_paddedBytes {bs : Bytes} {byte : UInt8}
    (h : byte ∈ (paddedBytes bs).drop bs.length) : byte = 0 := by
  rw [paddedBytes, List.drop_left] at h
  exact List.eq_of_mem_replicate h

namespace RouterCall

/-! ## The layout of a call -/

/-- A call whose parts have their sizes. -/
structure Sized (c : RouterCall) : Prop where
  selector : c.selector.length = 4
  currency0 : c.currency0.length = 20
  currency1 : c.currency1.length = 20
  fee : c.fee ≤ maxWord24
  tickSpacing : minSigned24 ≤ c.tickSpacing ∧ c.tickSpacing ≤ maxSigned24
  hooks : c.hooks.length = 20
  amount : minWord ≤ c.amount ∧ c.amount ≤ maxWord
  priceLimit : c.priceLimit ≤ maxWord160

/-- The words of a call. -/
def words (c : RouterCall) : List Bytes :=
  [addressWord c.currency0, addressWord c.currency1, naturalWord c.fee, integerWord c.tickSpacing,
    addressWord c.hooks, naturalWord (if c.zeroForOne then 1 else 0), integerWord c.amount,
    naturalWord c.priceLimit, naturalWord hookDataOffset, naturalWord c.hookData.length]

theorem encode_eq (c : RouterCall) :
    c.encode = c.selector ++ c.words.flatten ++ paddedBytes c.hookData := by
  simp only [encode, words, List.flatten_cons, List.flatten_nil, List.append_nil, List.append_assoc]

variable {c c' : RouterCall}

theorem Sized.length_of_mem_words (h : c.Sized) : ∀ w ∈ c.words, w.length = wordSize := by
  simp only [words, List.forall_mem_cons, naturalWord_length, integerWord_length,
    addressWord_length h.currency0, addressWord_length h.currency1, addressWord_length h.hooks,
    true_and]
  exact fun w hw => absurd hw List.not_mem_nil

theorem Sized.length_head (h : c.Sized) : (c.selector ++ c.words.flatten).length = 324 := by
  simp [words, h.selector, naturalWord_length, integerWord_length, addressWord_length h.currency0,
    addressWord_length h.currency1, addressWord_length h.hooks, wordSize]

theorem Sized.encode_length (h : c.Sized) :
    c.encode.length = 4 + 320 + 32 * ((c.hookData.length + 31) / 32) := by
  rw [encode_eq, List.length_append, h.length_head, paddedBytes_length]
  rfl

/-- **Every word stands at its place.** -/
theorem Sized.wordAt_encode (h : c.Sized) {i : Nat} {w : Bytes} (hi : c.words[i]? = some w) :
    wordAt c.encode i = w := by
  have hslice := Bytes.slice_flatten h.length_of_mem_words c.selector (paddedBytes c.hookData) hi
  rwa [h.selector, Nat.mul_comm, ← encode_eq] at hslice

/-- The hook data follow the words. -/
theorem Sized.drop_encode (h : c.Sized) : c.encode.drop 324 = paddedBytes c.hookData := by
  rw [encode_eq]
  exact List.drop_left' h.length_head

/-- Nothing but zeros follows the hook data. -/
theorem Sized.eq_zero_of_mem_drop (h : c.Sized) :
    ∀ byte ∈ c.encode.drop (4 + 320 + c.hookData.length), byte = 0 := by
  intro byte hbyte
  rw [← List.drop_drop, h.drop_encode] at hbyte
  exact eq_zero_of_mem_drop_paddedBytes hbyte

/-! ## Reading a call -/

/-- What is read from the bytes of a call: everything, with as much of the hook data as the word of their
length counts. -/
theorem Sized.decode?_encode_mod (h : c.Sized) :
    decode? c.encode =
      some { c with hookData := c.hookData.take (c.hookData.length % 2 ^ 256) } := by
  have hword : ∀ {i w}, c.words[i]? = some w → wordAt c.encode i = w := h.wordAt_encode
  have hcount : Bytes.bigEndian (wordAt c.encode 9) = c.hookData.length % 2 ^ 256 := by
    rw [hword (i := 9) rfl, bigEndian_naturalWord_mod]
  have hle := Nat.mod_le c.hookData.length (2 ^ 256)
  have hlayout : Bytes.bigEndian (wordAt c.encode 8) = hookDataOffset ∧
      4 + hookDataOffset + wordSize + c.hookData.length % 2 ^ 256 ≤ c.encode.length := by
    rw [hword (i := 8) rfl, bigEndian_naturalWord (by decide), h.encode_length]
    refine ⟨rfl, ?_⟩
    unfold hookDataOffset wordSize
    omega
  have hselector : c.encode.take 4 = c.selector := by
    rw [encode_eq, List.append_assoc]
    exact List.take_left' h.selector
  have hdata : Bytes.slice c.encode (4 + hookDataOffset + wordSize) (c.hookData.length % 2 ^ 256) =
      c.hookData.take (c.hookData.length % 2 ^ 256) := by
    rw [← take_paddedBytes hle, ← h.drop_encode]
    rfl
  have hfee : c.fee < 2 ^ 256 := Nat.lt_of_le_of_lt h.fee (by decide)
  have hlimit : c.priceLimit < 2 ^ 256 := Nat.lt_of_le_of_lt h.priceLimit (by decide)
  have hflag : decide (Bytes.bigEndian (naturalWord (if c.zeroForOne then 1 else 0)) = 1) =
      c.zeroForOne := by
    cases c.zeroForOne <;> decide
  have htick : minWord ≤ c.tickSpacing ∧ c.tickSpacing ≤ maxWord := by
    have hleast : minWord ≤ minSigned24 := by decide
    have hgreatest : maxSigned24 ≤ (maxWord : Int) := by decide
    exact ⟨Int.le_trans hleast h.tickSpacing.1, Int.le_trans h.tickSpacing.2 hgreatest⟩
  unfold decode?
  simp only [hcount]
  rw [if_pos hlayout, hselector, hdata, hword (i := 0) rfl, hword (i := 1) rfl, hword (i := 2) rfl,
    hword (i := 3) rfl, hword (i := 4) rfl, hword (i := 5) rfl, hword (i := 6) rfl,
    hword (i := 7) rfl, hflag, drop_addressWord h.currency0, drop_addressWord h.currency1,
    drop_addressWord h.hooks, bigEndian_naturalWord hfee, bigEndian_naturalWord hlimit,
    signed_integerWord htick.1 htick.2, signed_integerWord h.amount.1 h.amount.2]

/-- **A call is read back**, unless it has more hook data than a word can count. -/
theorem Sized.decode?_encode (h : c.Sized) (hdata : c.hookData.length < 2 ^ 256) :
    decode? c.encode = some c := by
  rw [h.decode?_encode_mod, Nat.mod_eq_of_lt hdata, List.take_length]

/-- **Different calls have different bytes**, whatever the length of their hook data: how many words there
are tells what their length leaves open. -/
theorem encode_injective (h : c.Sized) (h' : c'.Sized) (heq : c.encode = c'.encode) : c = c' := by
  have hread := h.decode?_encode_mod
  rw [heq, h'.decode?_encode_mod, Option.some.injEq] at hread
  have hcount : c.hookData.length % 2 ^ 256 = c'.hookData.length % 2 ^ 256 := by
    have hw := h.wordAt_encode (i := 9) rfl
    rw [heq, h'.wordAt_encode (i := 9) rfl] at hw
    rw [← bigEndian_naturalWord_mod, ← bigEndian_naturalWord_mod, hw]
  have hlength : c.hookData.length = c'.hookData.length := by
    have htotal := congrArg List.length heq
    rw [h.encode_length, h'.encode_length] at htotal
    omega
  have hdata : c.hookData = c'.hookData := by
    refine paddedBytes_inj hlength ?_
    rw [← h.drop_encode, ← h'.drop_encode, heq]
  obtain ⟨selector, currency0, currency1, fee, spacing, hooks, flag, amount, limit, data⟩ := c
  obtain ⟨selector', currency0', currency1', fee', spacing', hooks', flag', amount', limit', data'⟩ := c'
  simp only [RouterCall.mk.injEq] at hread hdata ⊢
  obtain ⟨h1, h2, h3, h4, h5, h6, h7, h8, h9, -⟩ := hread
  exact ⟨h1.symm, h2.symm, h3.symm, h4.symm, h5.symm, h6.symm, h7.symm, h8.symm, h9.symm, hdata⟩

end RouterCall

/-! ## What is encoded -/

theorem Hex.decodeChars?_length {cs : List Char} {bs : Bytes} (h : Hex.decodeChars? cs = some bs) :
    2 * bs.length = cs.length := by
  fun_induction Hex.decodeChars? cs generalizing bs with
  | case1 =>
    cases h
    rfl
  | case2 a b rest byte _ ih =>
    obtain ⟨tail, htail, rfl⟩ := Option.map_eq_some_iff.1 h
    have hrest := ih htail
    simp only [List.length_cons]
    omega
  | case3 => cases h
  | case4 => cases h

theorem evmAddressBytes_eq_ok_iff {t : Text} {bs : Bytes} :
    evmAddressBytes t = .ok bs ↔ evmAddressBytes? t = some bs := by
  unfold evmAddressBytes breakDown
  split <;> simp [*]

/-- An address has twenty bytes. -/
theorem evmAddressBytes_length {t : Text} {bs : Bytes} (h : evmAddressBytes t = .ok bs) :
    bs.length = 20 := by
  obtain ⟨cs, -, hcs⟩ := Option.bind_eq_some_iff.1 (evmAddressBytes_eq_ok_iff.1 h)
  obtain ⟨hdigits, hdecode⟩ := Option.ite_none_right_eq_some.1 hcs
  have hlength := Hex.decodeChars?_length hdecode
  omega

theorem readSelector_length {t : Text} {bs : Bytes} (h : readSelector t = .ok bs) :
    bs.length = 4 := by
  unfold readSelector at h
  split at h
  · cases h
  split at h
  · cases h
    assumption
  · cases h

/-- The call has the selector that a text spells, and the pool of a key. -/
structure RouterCall.Names (c : RouterCall) (key : UniswapPoolKey) (selector : Text) : Prop where
  selector_eq : readSelector selector = .ok c.selector
  currency0_eq : evmAddressBytes key.currency0 = .ok c.currency0
  currency1_eq : evmAddressBytes key.currency1 = .ok c.currency1
  fee_eq : c.fee = key.fee.val
  tickSpacing_eq : c.tickSpacing = key.tickSpacing.val
  hooks_eq : evmAddressBytes key.hooks = .ok c.hooks

/-- Do a signed word of 256 bits and a word of 160 bits hold the amount and the limit of a call? -/
def HeldByWords (amount priceLimit : Int) : Prop :=
  (minWord ≤ amount ∧ amount ≤ maxWord) ∧ 0 ≤ priceLimit ∧ priceLimit ≤ maxWord160

instance (amount priceLimit : Int) : Decidable (HeldByWords amount priceLimit) :=
  inferInstanceAs (Decidable (_ ∧ _))

theorem wordArgument_int (least greatest n : Int) :
    wordArgument least greatest (.int n) =
      if least ≤ n ∧ n ≤ greatest then .ok n else breakDown .outOfWord := by
  rw [wordArgument]
  by_cases h : least ≤ n ∧ n ≤ greatest
  · rw [if_pos h, if_neg (by omega)]
  · rw [if_neg h, if_pos (by omega)]

section

variable {key : UniswapPoolKey} {selector : Text} {c : RouterCall}

/-- **What the arguments of a call are encoded to**, when its texts are read: the call, or nothing at all if
an amount or a limit is held by no word. -/
theorem swapCalldata_eq (h : c.Names key selector) (flag : Bool) (amount limit : Int) (data : Bytes) :
    swapCalldata key flag amount limit selector data =
      if HeldByWords amount limit then
        .ok { c with
          zeroForOne := flag, amount := amount, priceLimit := limit.toNat, hookData := data }.encode
      else breakDown .outOfWord := by
  have hfee := h.fee_eq
  have hspacing := h.tickSpacing_eq
  unfold swapCalldata calldataOfValues
  rw [selectorArgument, flagArgument, wordArgument_int, wordArgument_int, h.selector_eq,
    h.currency0_eq, h.currency1_eq, h.hooks_eq, ← hfee, ← hspacing]
  by_cases hamount : minWord ≤ amount ∧ amount ≤ maxWord
  · rw [if_pos hamount]
    by_cases hlimit : 0 ≤ limit ∧ limit ≤ maxWord160
    · have hheld : HeldByWords amount limit := ⟨hamount, hlimit⟩
      rw [if_pos hlimit, if_pos hheld]
      rfl
    · have hheld : ¬ HeldByWords amount limit := fun hboth => hlimit hboth.2
      rw [if_neg hlimit, if_neg hheld]
      rfl
  · have hheld : ¬ HeldByWords amount limit := fun hboth => hamount hboth.1
    rw [if_neg hamount, if_neg hheld]
    rfl

/-- A call of texts that are read has parts of their sizes. -/
theorem RouterCall.Names.sized (h : c.Names key selector) (hheld : HeldByWords c.amount c.priceLimit) :
    c.Sized where
  selector := readSelector_length h.selector_eq
  currency0 := evmAddressBytes_length h.currency0_eq
  currency1 := evmAddressBytes_length h.currency1_eq
  fee := h.fee_eq ▸ key.fee.property
  tickSpacing := h.tickSpacing_eq ▸ key.tickSpacing.property
  hooks := evmAddressBytes_length h.hooks_eq
  amount := hheld.1
  priceLimit := Int.ofNat_le.1 hheld.2.2

/-- Which texts a call is made of does not depend on its arguments. -/
theorem RouterCall.Names.with_arguments (h : c.Names key selector) (flag : Bool) (amount : Int)
    (limit : Nat) (data : Bytes) :
    { c with
      zeroForOne := flag, amount := amount, priceLimit := limit, hookData := data }.Names key selector :=
  ⟨h.selector_eq, h.currency0_eq, h.currency1_eq, h.fee_eq, h.tickSpacing_eq, h.hooks_eq⟩

/-- **A call is encoded as it is**, if words hold its amount and its limit. -/
theorem RouterCall.Names.swapCalldata_eq_ok (h : c.Names key selector)
    (hheld : HeldByWords c.amount c.priceLimit) :
    swapCalldata key c.zeroForOne c.amount c.priceLimit selector c.hookData = .ok c.encode := by
  rw [swapCalldata_eq h, if_pos hheld]
  rfl

/-- Nothing is encoded unless its texts are read. -/
theorem exists_names_of_swapCalldata {flag : Bool} {amount limit : Int} {data bs : Bytes}
    (h : swapCalldata key flag amount limit selector data = .ok bs) :
    ∃ c : RouterCall, c.Names key selector := by
  simp only [swapCalldata, calldataOfValues, selectorArgument, bind_eq_ok_iff, Except.ok.injEq] at h
  obtain ⟨_, hselector, _, hcurrency0, _, hcurrency1, _, hhooks, _, -, n, -, m, -, -⟩ := h
  exact ⟨⟨_, _, _, _, _, _, flag, n, m.toNat, data⟩, hselector, hcurrency0, hcurrency1, rfl, rfl, hhooks⟩

/-- **What is encoded is a call of texts that are read**, with an amount and a limit that words hold. -/
theorem swapCalldata_eq_ok_iff {flag : Bool} {amount limit : Int} {data bs : Bytes} :
    swapCalldata key flag amount limit selector data = .ok bs ↔
      HeldByWords amount limit ∧ ∃ c : RouterCall, c.Names key selector ∧ c.zeroForOne = flag ∧
        c.amount = amount ∧ (c.priceLimit : Int) = limit ∧ c.hookData = data ∧ bs = c.encode := by
  constructor
  · intro h
    obtain ⟨c, hnames⟩ := exists_names_of_swapCalldata h
    rw [swapCalldata_eq hnames] at h
    split at h
    · rename_i hheld
      cases h
      exact ⟨hheld, _, hnames.with_arguments flag amount limit.toNat data, rfl, rfl,
        Int.toNat_of_nonneg hheld.2.1, rfl, rfl⟩
    · cases h
  · rintro ⟨hheld, c, h, rfl, rfl, rfl, rfl, rfl⟩
    exact h.swapCalldata_eq_ok hheld

end

/-- **Calls of the router are read back.**  For texts that spell a selector and three addresses, every call
of their pool whose amount and limit words hold has a length that is told by its hook data, only zeros
after those, and is read back as it is; the one condition is that a word counts the hook data, and no
memory holds more.  Different calls have different bytes, under no such condition.  What no word holds is
refused, never cut. -/
theorem calldata_read_back :
    (∀ (key : UniswapPoolKey) (selector : Text) (c : RouterCall), c.Names key selector →
      HeldByWords c.amount c.priceLimit →
      ∃ bs, swapCalldata key c.zeroForOne c.amount c.priceLimit selector c.hookData = .ok bs ∧
        bs.length = 4 + 320 + 32 * ((c.hookData.length + 31) / 32) ∧
        (∀ byte ∈ bs.drop (4 + 320 + c.hookData.length), byte = 0) ∧
        (c.hookData.length < 2 ^ 256 → RouterCall.decode? bs = some c)) ∧
    (∀ (key key' : UniswapPoolKey) (selector selector' : Text) (c c' : RouterCall),
      c.Names key selector → c'.Names key' selector' → HeldByWords c.amount c.priceLimit →
      swapCalldata key c.zeroForOne c.amount c.priceLimit selector c.hookData =
        swapCalldata key' c'.zeroForOne c'.amount c'.priceLimit selector' c'.hookData → c = c') ∧
    ∀ (key : UniswapPoolKey) (selector : Text) (flag : Bool) (amount limit : Int) (data : Bytes),
      ¬ HeldByWords amount limit →
      (∀ bs, swapCalldata key flag amount limit selector data ≠ .ok bs) ∧
        ∀ c : RouterCall, c.Names key selector →
          swapCalldata key flag amount limit selector data = breakDown .outOfWord := by
  refine ⟨fun key selector c h hheld => ?_, fun key key' selector selector' c c' h h' hheld heq => ?_,
    fun key selector flag amount limit data hout => ⟨fun bs hbs => ?_, fun c h => ?_⟩⟩
  · have hsized := h.sized hheld
    exact ⟨c.encode, h.swapCalldata_eq_ok hheld, hsized.encode_length, hsized.eq_zero_of_mem_drop,
      hsized.decode?_encode⟩
  · have hok := h.swapCalldata_eq_ok hheld
    -- the second call is encoded too, so words hold its amount and its limit
    have hheld' := (swapCalldata_eq_ok_iff.1 (heq.symm.trans hok)).1
    rw [hok, h'.swapCalldata_eq_ok hheld', Except.ok.injEq] at heq
    exact RouterCall.encode_injective (h.sized hheld) (h'.sized hheld') heq
  · exact hout (swapCalldata_eq_ok_iff.1 hbs).1
  · rw [swapCalldata_eq h, if_neg hout]

/-- The key of a pool whose ticks count downwards. -/
def downwardKey : UniswapPoolKey :=
  { currency0 := "0x2222222222222222222222222222222222222222"
    currency1 := "3333333333333333333333333333333333333333"
    fee := uniswapPoolFee
    tickSpacing := ⟨minSigned24, by decide⟩
    hooks := "0X0000000000000000000000000000000000000044" }

/-- A sale of the second currency, with hook data. -/
def hookedCall : RouterCall :=
  { selector := [0x92, 0x44, 0x37, 0x79]
    currency0 := List.replicate 20 0x22
    currency1 := List.replicate 20 0x33
    fee := 3000
    tickSpacing := minSigned24
    hooks := List.replicate 19 0 ++ [0x44]
    zeroForOne := false
    amount := -5
    priceLimit := maxWord160
    hookData := List.replicate 33 7 }

/-- The call is read back, is told from the one with less hook data, and is refused with too great an
amount. -/
theorem hookedCall_read_back :
    let calldata := fun (amount : Int) (data : Bytes) =>
      swapCalldata downwardKey false amount maxWord160 "0x92443779" data
    (∃ bs, calldata (-5) hookedCall.hookData = .ok bs ∧ bs.length = 388 ∧
      RouterCall.decode? bs = some hookedCall) ∧
    calldata (-5) hookedCall.hookData ≠ calldata (-5) [7] ∧
    calldata (maxWord + 1) [] = breakDown .outOfWord := by
  intro calldata
  have hnames : hookedCall.Names downwardKey "0x92443779" := by
    constructor <;> decide +kernel
  have hnames' : { hookedCall with hookData := [7] }.Names downwardKey "0x92443779" := by
    constructor <;> decide +kernel
  have hheld : HeldByWords hookedCall.amount hookedCall.priceLimit := by decide
  refine ⟨?_, fun heq => ?_, ?_⟩
  · obtain ⟨bs, hbs, hlength, -, hread⟩ := calldata_read_back.1 _ _ _ hnames hheld
    exact ⟨bs, hbs, hlength, hread (by decide)⟩
  · exact absurd (calldata_read_back.2.1 _ _ _ _ _ _ hnames hnames' hheld heq) (by decide)
  · exact (calldata_read_back.2.2 downwardKey "0x92443779" false (maxWord + 1) maxWord160 []
      (by decide)).2 hookedCall hnames

end CrossVenue
