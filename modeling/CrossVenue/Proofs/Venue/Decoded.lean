import CrossVenue.Proofs.Json.Payload
import CrossVenue.Proofs.Venue.Offer
import CrossVenue.Proofs.Venue.Transfer

/-!
# Messages as they are decoded

The message of an instruction is decoded to the payload that it was composed of, so no text in a payload
can change anything but itself, whatever its characters.  Only payloads that are nested deeper than the
stack has room for are refused, by the encoder and by the decoder, and no venue composes such.

* `PlaneInstruction.payload_of_encodes` : what the message of an instruction is decoded to;
* `Astroport.composeSwap_payload`, `Uniswap.composeSwap_payload`, `Transfer.compose_payload` : what is
  composed;
* `messages_decoded` : all of these;
* `nested_list_refused` : payloads that are nested too deep.
-/

set_option autoImplicit false

namespace CrossVenue

namespace PlaneInstruction

/-- **The message of an instruction is decoded to its payload**, unless that is nested too deep. -/
theorem payload_of_encodes {i : PlaneInstruction} {v : Json} (hv : v.Encodes) (h : i.msg = v.encode)
    (room : Room) :
    i.payload room = if v.depth ≤ room.levels then .ok v else breakDown .tooDeep := by
  rw [payload, h, hv.read]
  split_ifs <;> rfl

/-- A payload that is nested no deeper than there always is room for is decoded. -/
theorem payload_carrying {v : Json} (hv : v.isPayload = true) (hd : v.depth ≤ Room.least.levels)
    (plane : Plane) (action : Text) (room : Room) : (carrying plane action v).payload room = .ok v := by
  rw [payload_of_encodes (Json.encodes_of_isPayload hv) rfl, if_pos (hd.trans room.ample)]

end PlaneInstruction

open PlaneInstruction Json

/-! ## Swaps and transfers -/

variable {writing : Room} {r : Registry}

theorem Astroport.composeSwap_payload {swap : Swap} {contract : Text}
    {is : List PlaneInstruction} (h : composeSwap writing r swap = .ok is)
    (hcontract : r.astroportContract swap.pair = .ok contract)
    (hplain : ∀ t ∈ [swap.sender, swap.denom, contract, r.astroport.maxSpread], t.isPlain = true) :
    ∃ i, ∃ n : Nat, is = [i] ∧ (n : Int) = swap.amount ∧
      ∀ reading, i.payload reading = .ok (swapPayload r swap contract n) := by
  obtain ⟨_, n, hfound, ⟨hn, -⟩, rfl⟩ := composeSwap_eq_ok_iff.1 h
  cases hcontract.symm.trans hfound
  simp only [List.forall_mem_cons] at hplain
  obtain ⟨hsender, hdenom, hto, hspread, -⟩ := hplain
  refine ⟨_, n, rfl, hn, payload_carrying ?_ ?_ _ _⟩
  · simp [swapPayload, isPayload, every, everyField, everyItem, Text.ofString_inj, hsender, hdenom, hto,
      hspread]
  · simp [swapPayload, depth, fieldsDepth, itemsDepth, Room.least]

theorem Uniswap.composeSwap_payload {swap : Swap} {is : List PlaneInstruction}
    (h : composeSwap writing r swap = .ok is) (hplain : swap.sender.isPlain = true) :
    ∃ i p calldata router, is = [i] ∧ prepare r swap = .ok p ∧ (p.amount : Int) = swap.amount ∧
      swapCalldata p.key p.zeroForOne (-(p.amount : Int)) (priceLimit p.zeroForOne)
        r.uniswap.selector [] = .ok calldata ∧
      evmAddressBytes p.router = .ok router ∧
      ∀ reading, i.payload reading = .ok (swapPayload swap router calldata p.amount) := by
  obtain ⟨p, calldata, router, hp, hcalldata, hrouter, rfl⟩ := composeSwap_eq_ok_iff.1 h
  refine ⟨_, p, calldata, router, rfl, hp, (amount_of_prepare hp).1, hcalldata, hrouter,
    payload_carrying ?_ ?_ _ _⟩
  · simp [swapPayload, isPayload, every, everyField, Text.ofString_inj, hplain]
  · simp [swapPayload, depth, fieldsDepth, Room.least]

theorem Transfer.compose_payload {sender denom : Text} {source target : Json}
    {amount : Int} {i : PlaneInstruction}
    (h : compose writing r (.str sender) source target (.str denom) amount = .ok i)
    (hsender : sender.isPlain = true) (hdenom : denom.isPlain = true) :
    ∃ start finish entering, planeOf source = .ok start ∧ planeOf target = .ok finish ∧
      enteringFactor r finish (.str denom) = .ok entering ∧
      ∀ reading, i.payload reading = .ok (payload (.str sender) start finish
        (.str (bankName start denom))
        (toString (movable (leavingFactor r start (.str denom)) entering amount.toNat))) := by
  obtain ⟨start, finish, entering, name, hstart, hfinish, hentering, hname, -, rfl⟩ := compose_eq_ok h
  cases (bankDenom_str start denom).symm.trans hname
  refine ⟨start, finish, entering, hstart, hfinish, hentering, payload_carrying ?_ ?_ _ _⟩
  · have hbank : (bankName start denom).isPlain = true := by
      unfold bankName
      split <;> simp [hdenom, bankLead]
    simp [payload, isPayload, every, everyField, Text.ofString_inj, messageType, hsender, hbank]
  · simp [payload, depth, fieldsDepth, Room.least]

/-! ## All messages -/

/-- **Messages are decoded to what they were composed of.**  The bytes of a payload are printable ASCII
without blanks outside of strings.  They are written exactly if the stack of the encoder has room for the
nesting of the payload, and decoded to the payload, with its fields in order, exactly if that of the
decoder has.  Whatever plain texts a swap or a transfer is composed of, every decoder has room for its
message, and decodes the object that was meant. -/
theorem messages_decoded :
    (∀ v : Json, v.isPayload = true → v.Encodes ∧
      (∀ (writing : Room) (plane : Plane) (action : Text), ofPayload writing plane action v =
        if v.depth ≤ writing.levels then .ok (carrying plane action v) else breakDown .tooDeep) ∧
      ∀ (reading : Room) (i : PlaneInstruction), i.msg = v.encode →
        i.payload reading = if v.depth ≤ reading.levels then .ok v else breakDown .tooDeep) ∧
    (∀ (writing : Room) (r : Registry) (swap : Swap) (contract : Text) (is : List PlaneInstruction),
      Astroport.composeSwap writing r swap = .ok is → r.astroportContract swap.pair = .ok contract →
      (∀ t ∈ [swap.sender, swap.denom, contract, r.astroport.maxSpread], t.isPlain = true) →
      ∃ i, ∃ n : Nat, is = [i] ∧ (n : Int) = swap.amount ∧
        ∀ reading, i.payload reading = .ok (Astroport.swapPayload r swap contract n)) ∧
    (∀ (writing : Room) (r : Registry) (swap : Swap) (is : List PlaneInstruction),
      Uniswap.composeSwap writing r swap = .ok is → swap.sender.isPlain = true →
      ∃ i p calldata router, is = [i] ∧ Uniswap.prepare r swap = .ok p ∧
        (p.amount : Int) = swap.amount ∧
        swapCalldata p.key p.zeroForOne (-(p.amount : Int)) (Uniswap.priceLimit p.zeroForOne)
          r.uniswap.selector [] = .ok calldata ∧
        evmAddressBytes p.router = .ok router ∧
        ∀ reading, i.payload reading = .ok (Uniswap.swapPayload swap router calldata p.amount)) ∧
    ∀ (writing : Room) (r : Registry) (sender denom : Text) (source target : Json) (amount : Int)
      (i : PlaneInstruction),
      Transfer.compose writing r (.str sender) source target (.str denom) amount = .ok i →
      sender.isPlain = true → denom.isPlain = true →
      ∃ start finish entering, Transfer.planeOf source = .ok start ∧
        Transfer.planeOf target = .ok finish ∧
        Transfer.enteringFactor r finish (.str denom) = .ok entering ∧
        ∀ reading, i.payload reading = .ok (Transfer.payload (.str sender) start finish
          (.str (Transfer.bankName start denom))
          (toString (Transfer.movable (Transfer.leavingFactor r start (.str denom)) entering
            amount.toNat))) := by
  refine ⟨fun v hv => ?_, fun writing r swap contract is h hcontract hplain => ?_,
    fun writing r swap is h hplain => ?_,
    fun writing r sender denom source target amount i h hsender hdenom => ?_⟩
  · have hencodes := encodes_of_isPayload hv
    refine ⟨hencodes, fun writing plane action => ?_, fun reading i hi =>
      payload_of_encodes hencodes hi reading⟩
    rw [ofPayload, hencodes.write]
    split_ifs <;> rfl
  · exact Astroport.composeSwap_payload h hcontract hplain
  · exact Uniswap.composeSwap_payload h hplain
  · exact Transfer.compose_payload h hsender hdenom

/-- A text that tries to end its string. -/
def hostileText : Text := "\"\x7d,\\\n\x01😀"

/-- A sale of ether that such a text asks for. -/
def hostileSale : Swap :=
  { venue := "uniswap"
    pair := "eth-usdt"
    sender := hostileText
    denom := "eth"
    amount := 5
    senderSvm := none }

/-- The built-in registry with a router, and with addresses and a pool of ether on the EVM plane. -/
def routedRegistry : Registry :=
  let ether : Text := "0x2222222222222222222222222222222222222222"
  let tether : Text := "0x3333333333333333333333333333333333333333"
  { Registry.builtin with
    denoms := [("eth", ⟨"eth", some etherMint, some ether, etherFactor⟩),
      ("usdt", ⟨"usdt", some tetherMint, some tether, unitFactor⟩)]
    uniswap := { UniswapConfig.bare with
      router := some ("0x1111111111111111111111111111111111111111" : Text)
      pools := [("eth-usdt", ⟨ether, tether, uniswapPoolFee, uniswapTickSpacing, noHooks⟩)] } }

/-- Texts that try to end their strings are decoded like all others: in a payload, as the sender and the
denom of a swap, as the sender of a call of the router, and on both ends of a transfer. -/
theorem hostile_texts_decoded :
    let v := Json.obj [(hostileText, .arr [.str hostileText, .null, .int (-7)])]
    let sale := { hostileSale with denom := hostileText }
    (∃ i, ofPayload .least .cosmos invokeCosmos v = .ok i ∧ ∀ reading, i.payload reading = .ok v) ∧
    (∃ i contract, Astroport.composeSwap .least .builtin sale = .ok [i] ∧
      ∀ reading, i.payload reading = .ok (Astroport.swapPayload .builtin sale contract 5)) ∧
    (∃ i router calldata, Uniswap.composeSwap .least routedRegistry hostileSale = .ok [i] ∧
      ∀ reading, i.payload reading = .ok (Uniswap.swapPayload hostileSale router calldata 5)) ∧
    ∃ i, Transfer.compose .least .builtin (.str hostileText) (.str "EVM") (.str "COSMOS")
        (.str hostileText) 5 = .ok i ∧
      ∀ reading, i.payload reading = .ok (Transfer.payload (.str hostileText) .evm .cosmos
        (.str (Transfer.bankLead ++ hostileText)) "5") := by
  intro v sale
  refine ⟨?_, ?_, ?_, ?_⟩
  · obtain ⟨-, hwritten, hread⟩ := messages_decoded.1 v (by decide +kernel)
    have hdepth : v.depth ≤ Room.least.levels := by decide
    refine ⟨carrying .cosmos invokeCosmos v, (hwritten _ _ _).trans (if_pos hdepth), fun reading => ?_⟩
    exact (hread reading _ rfl).trans (if_pos (hdepth.trans reading.ample))
  · obtain ⟨contract, hcontract⟩ : ∃ c, Registry.builtin.astroportContract sale.pair = .ok c := ⟨_, rfl⟩
    have hswap : Astroport.composeSwap .least .builtin sale = .ok _ := Astroport.composeSwap_eq_ok_iff.2
      ⟨contract, 5, hcontract, ⟨rfl, by decide⟩, rfl⟩
    obtain ⟨i, n, his, hn, hi⟩ :=
      messages_decoded.2.1 _ _ _ _ _ hswap hcontract (by cases hcontract; decide +kernel)
    rw [his] at hswap
    have hfive : (n : Int) = 5 := hn
    obtain rfl : n = 5 := by omega
    exact ⟨i, contract, hswap, hi⟩
  · have hok : (Uniswap.composeSwap .least routedRegistry hostileSale).map (fun _ => ()) = .ok () := by
      decide +kernel
    obtain ⟨is, hswap, -⟩ := map_eq_ok_iff.1 hok
    obtain ⟨i, p, calldata, router, rfl, -, hn, -, -, hi⟩ :=
      messages_decoded.2.2.1 _ _ _ _ hswap (by decide +kernel)
    have hfive : (p.amount : Int) = 5 := hn
    have hamount : p.amount = 5 := by omega
    rw [hamount] at hi
    exact ⟨i, router, calldata, hswap, hi⟩
  · have hok : (Transfer.compose .least .builtin (.str hostileText) (.str "EVM") (.str "COSMOS")
        (.str hostileText) 5).map (fun _ => ()) = .ok () := by decide +kernel
    obtain ⟨i, hi, -⟩ := map_eq_ok_iff.1 hok
    obtain ⟨start, finish, entering, hstart, hfinish, hentering, hdecoded⟩ :=
      messages_decoded.2.2.2 _ _ _ _ _ _ _ _ hi (by decide +kernel) (by decide +kernel)
    cases hstart
    cases hfinish
    cases hentering
    exact ⟨i, hi, hdecoded⟩

/-! ## A payload that is refused -/

/-- An empty list inside of so many others. -/
def nested : Nat → Json
  | 0 => .arr []
  | n + 1 => .arr [nested n]

theorem isPayload_nested (n : Nat) : (nested n).isPayload = true := by
  induction n with
  | zero => rfl
  | succ n ih => exact isPayload_arr_iff.2 (List.forall_mem_singleton.2 ih)

theorem depth_nested (n : Nat) : (nested n).depth = n + 1 := by
  induction n with
  | zero => rfl
  | succ n ih => rw [nested, depth, itemsDepth, itemsDepth, ih, Nat.max_zero]

/-- **Lists inside of too many others are refused**, so not every payload is decoded.  However much room the
stacks have, there is a payload that is neither written nor read; of a stack that ends at a thousand levels
it is a list inside of a thousand others. -/
theorem nested_list_refused :
    (∀ room : Room, room.levels ≤ 1000 →
      (nested 1000).isPayload = true ∧ (nested 1000).encodeIn room = .error .tooDeep ∧
        ∀ i : PlaneInstruction, i.msg = (nested 1000).encode → i.payload room = breakDown .tooDeep) ∧
    ∀ writing reading : Room, ¬ ∀ v : Json, v.isPayload = true →
      ∃ msg, v.encodeIn writing = .ok msg ∧
        ∀ i : PlaneInstruction, i.msg = msg → i.payload reading = .ok v := by
  have hrefused : ∀ (room : Room) (n : Nat), room.levels ≤ n →
      (nested n).encodeIn room = .error .tooDeep := by
    intro room n hn
    rw [(encodes_of_isPayload (isPayload_nested n)).write, depth_nested, if_neg (by omega)]
  refine ⟨fun room hroom => ⟨isPayload_nested 1000, hrefused room 1000 hroom, fun i hi => ?_⟩,
    fun writing reading h => ?_⟩
  · rw [payload_of_encodes (encodes_of_isPayload (isPayload_nested 1000)) hi, depth_nested,
      if_neg (by omega)]
  · obtain ⟨msg, hmsg, -⟩ := h (nested writing.levels) (isPayload_nested _)
    rw [hrefused writing _ (Nat.le_refl _)] at hmsg
    cases hmsg

end CrossVenue
