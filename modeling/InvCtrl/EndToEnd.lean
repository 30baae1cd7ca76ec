import InvCtrl.Delivery
import InvCtrl.Register

/-! A signed write and a signed read from end to end: the client's agent, both host
libraries and both applications, with one key. The two machines may be one. -/
namespace InvCtrl
open Interaction

/-- Client calls complete, the transport carries and no TEE call fails. -/
structure Platform.Reliable (platform : Platform) : Prop where
  delivers : platform.Delivers
  succeeds : platform.env.Succeeds

/-- Reliable, with a scheme that is ideal on the messages of the protocol. -/
structure Platform.Works (platform : Platform) : Prop extends platform.Reliable where
  ideal : platform.env.crypto.Ideal

section Scheme
variable {crypto : Crypto} (ideal : crypto.Ideal)
include ideal

theorem modifyHead_invalid (left right : List UInt8) (leftWhole : left.length = 3)
    (rightWhole : right.length = 3) :
    (crypto.signature left).modifyHead (· ^^^ 0xFF) ≠ crypto.signature right := by
  intro same
  have tails : (crypto.signature left).tail = (crypto.signature right).tail := by
    rw [← same, List.tail_modifyHead]
  have equal := ideal.separates left right leftWhole rightWhole tails
  subst equal
  have nonempty := crypto.signature_length left
  cases signature : crypto.signature left with
  | nil => rw [signature] at nonempty; cases nonempty
  | cons head rest =>
    rw [signature, List.modifyHead_cons] at same
    have flipped : head ^^^ 0xFF = head := (List.cons.inj same).1
    have bit := congrArg (fun byte => byte.toBitVec.getLsbD 0) flipped
    simp at bit

theorem emitted_valid_iff (tamper : Int32) (value value' : UInt8) (id id' : UInt16) :
    crypto.valid (message value' id') (emitted tamper (crypto.signature (message value id))) = true ↔
      tamper = 0 ∧ id' = id ∧ value' = value := by
  rw [ideal.exact _ _ (message_length value' id')]
  unfold emitted
  split
  · next set =>
    constructor
    · intro same
      exact absurd same (modifyHead_invalid ideal _ _ rfl rfl)
    · rintro ⟨clear, _⟩
      exact absurd clear set
  · next clear =>
    rw [not_not] at clear
    constructor
    · intro same
      have equal := ideal.separates _ _ (message_length value id) (message_length value' id')
        (congrArg List.tail same)
      obtain ⟨values, ids⟩ := message_inj.mp equal
      exact ⟨clear, ids.symm, values.symm⟩
    · rintro ⟨_, rfl, rfl⟩
      rfl

end Scheme

theorem emitted_slice (crypto : Crypto) (before : ByteMemory) (start : Nat) (tamper : Int32)
    (m : List UInt8) :
    let signature := emitted tamper (crypto.signature m)
    ((before.overlay start signature).shift start).slice 0 128 = signature := by
  intro signature
  have length : signature.length = 128 := by
    rw [emitted_length, Crypto.signature_length]
  rw [ByteMemory.slice_shift, Nat.add_zero, ← length, ByteMemory.slice_overlay]

section Emission
variable {platform : Platform} (reliable : platform.Reliable) (w : World)
include reliable

theorem sign_emits (idHigh idLow valueHigh valueLow : UInt8) (req : ByteMemory) (reqLength : Nat)
    (clientTamper : Int32) :
    let r := (invCtrlSignCoilValue idHigh idLow valueHigh valueLow req reqLength clientTamper).run
      platform.handler w
    let m := message (requestValue valueHigh valueLow) (low16 (requestId idHigh idLow))
    let signature := platform.env.crypto.signature m
    r.1 = (req.overlay reqLength (emitted clientTamper signature), reqLength + 128) ∧
      r.2.tee.store = w.tee.store ∧ r.2.tee.signed = w.tee.signed ++ [(m, signature)] := by
  intro r m signature
  obtain ⟨out, returned, store, ⟨rfl, signed⟩ | ⟨failing, _⟩⟩ := invCtrlSignCoilValue_run
    reliable.delivers w idHigh idLow valueHigh valueLow req reqLength clientTamper
  · exact ⟨returned, store, signed⟩
  · exact absurd reliable.succeeds.crypto failing

theorem read_emits (transactionId coilAddress : Int32) (req : ByteMemory) (reqLength : Nat)
    (serverTamper : Int32) :
    let r := (invCtrlGetDataByCoilAddress transactionId coilAddress req reqLength serverTamper).run
      platform.handler w
    let value := platform.env.coilValue platform.seed w.tee coilAddress.toUInt32
    let m := message value (low16 transactionId)
    let signature := platform.env.crypto.signature m
    r.1 = ((req.write reqLength value).overlay (reqLength + 1) (emitted serverTamper signature),
        reqLength + 129) ∧
      r.2.tee.store = w.tee.store ∧ r.2.tee.signed = w.tee.signed ++ [(m, signature)] := by
  intro r value m signature
  obtain ⟨out, returned, store, ⟨rfl, signed⟩ | ⟨failing, _⟩⟩ := invCtrlGetDataByCoilAddress_run
    reliable.delivers w transactionId coilAddress req reqLength serverTamper
  · rw [Crypto.signature_length] at returned
    exact ⟨returned, store, signed⟩
  · exact absurd reliable.succeeds.crypto failing

theorem set_delivers {bytes : List UInt8} (stored : w.tee.store filename = some bytes)
    (length : bytes.length = platform.seed.coilData.length) (transactionId coilAddress : Int32)
    (coilValue : UInt8) (signature : ByteMemory) :
    let r := (invCtrlSetCoilData transactionId coilAddress coilValue signature).run
      platform.handler w
    let accepted := platform.env.crypto.valid (message coilValue (low16 transactionId))
      (signature.slice 0 128) = true
    r.2.tee.signed = w.tee.signed ∧
      ((r.1 = 1 ∧ accepted ∧ r.2.tee.store filename =
          some (if coilAddress = coilAddressInverterStatus then
            PackedBits.set bytes 0 (coilValue ≠ 0) else bytes)) ∨
        (r.1 = -1 ∧ ¬ accepted ∧ r.2.tee.store = w.tee.store)) := by
  intro r accepted
  obtain ⟨signed, ⟨verdict, valid, store⟩ | ⟨verdict, invalid, store⟩⟩ := invCtrlSetCoilData_run
    reliable.delivers w transactionId coilAddress coilValue signature
  · refine ⟨signed, .inl ⟨verdict, valid, ?_⟩⟩
    have address : coilAddress.toUInt32.toInt32 = coilAddress := rfl
    have value : coilValue.toUInt32.toUInt8 = coilValue := UInt8.toUInt8_toUInt32 coilValue
    rw [show r.2.tee.store = _ from store, if_pos (reliable.succeeds.storage.result _),
      Function.update_self,
      coilUpdate_complete reliable.succeeds.storage stored length, address, value]
  · exact ⟨signed, .inr ⟨verdict, fun valid => invalid ⟨reliable.succeeds.crypto, valid⟩, store⟩⟩

theorem verify_delivers (transactionId : Int32) (coilValue : UInt8) (signature : ByteMemory) :
    let r := (invCtrlVerifyCoilData transactionId coilValue signature 128).run platform.handler w
    let accepted := platform.env.crypto.valid (message coilValue (low16 transactionId))
      (signature.slice 0 128) = true
    r.2.tee.store = w.tee.store ∧ r.2.tee.signed = w.tee.signed ∧
      (r.1.2 = 1 ∧ accepted ∨ r.1.2 = -1 ∧ ¬ accepted) := by
  intro r accepted
  obtain ⟨store, signed, ⟨verdict, valid⟩ | ⟨verdict, invalid⟩⟩ :=
    invCtrlVerifyCoilData_run reliable.delivers w transactionId coilValue signature
  · exact ⟨store, signed, .inl ⟨verdict, valid⟩⟩
  · exact ⟨store, signed, .inr ⟨verdict, fun valid => invalid ⟨reliable.succeeds.crypto, valid⟩⟩⟩

end Emission

section Reference

/-- Four mappings at distinct addresses that show the caller's bytes. -/
def Link.direct : Link where
  base i := UInt32.ofNat i.val
  distinct := by
    intro i j
    revert i j
    decide
  sees _ _ buffer _ := buffer

/-- A machine on which everything succeeds, with the reference scheme. -/
def Platform.reference : Platform where
  env := .reference
  seed := .shipped
  link := .direct
  outcome _ := .completed
  residue _ := fun _ => 0

/-- A machine that has stored these coils and done nothing else. -/
def World.holding (coilData : List UInt8) : World := ⟨Tee.holding coilData, 0⟩

@[simp] theorem holding_coil (coilData : List UInt8) :
    (World.holding coilData).tee.coil = PackedBits.get coilData 0 := by
  rw [Tee.coil, World.holding, holding_store, Option.getD_some]

theorem reference_works : Platform.reference.Works where
  delivers := ⟨fun _ => rfl, fun _ _ _ _ _ _ => rfl⟩
  succeeds := reference_succeeds
  ideal := reference_ideal

end Reference

section Delivered
variable (client server : Platform)

theorem low16_requestId (transactionId : Int32) (idHigh idLow : UInt8) :
    low16 transactionId = low16 (requestId idHigh idLow) ↔
      transactionId.toInt ≡ idHigh.toNat * 256 + idLow.toNat [ZMOD 2 ^ 16] := by
  rw [low16_eq_iff, requestId, word_toInt]

/-- A signed write: accepted exactly if it is delivered as it was signed. -/
theorem signed_write (clientWorks : client.Works) (serverWorks : server.Works)
    (oneKey : server.env.crypto = client.env.crypto) (c s : World) (bytes : List UInt8)
    (stored : s.tee.store filename = some bytes)
    (length : bytes.length = server.seed.coilData.length)
    (idHigh idLow valueHigh valueLow : UInt8) (req : ByteMemory) (reqLength : Nat)
    (clientTamper transactionId : Int32) (coilValue : UInt8) :
    let emit := (invCtrlSignCoilValue idHigh idLow valueHigh valueLow req reqLength
      clientTamper).run client.handler c
    let deliver := (invCtrlSetCoilData transactionId coilAddressInverterStatus coilValue
      (emit.1.1.shift reqLength)).run server.handler s
    emit.1.2 = reqLength + 128 ∧ (∀ i, i < reqLength → emit.1.1 i = req i) ∧
      (deliver.1 = 1 ↔ clientTamper = 0 ∧
        transactionId.toInt ≡ idHigh.toNat * 256 + idLow.toNat [ZMOD 2 ^ 16] ∧
        coilValue = if valueHigh.toNat * 256 + valueLow.toNat = 0xFF00 then 1 else 0) ∧
      (deliver.1 = 1 → ∃ new, deliver.2.tee.store filename = some new ∧
        new.length = bytes.length ∧ coilValue = (if PackedBits.get new 0 then 1 else 0) ∧
        ∀ i, i ≠ 0 → PackedBits.get new i = PackedBits.get bytes i) ∧
      (deliver.1 ≠ 1 → deliver.1 = -1 ∧ deliver.2.tee.store = s.tee.store) := by
  intro emit deliver
  obtain ⟨returned, _, _⟩ := sign_emits clientWorks.toReliable c idHigh idLow valueHigh valueLow
    req reqLength clientTamper
  have carried : (emit.1.1.shift reqLength).slice 0 128 = emitted clientTamper
      (server.env.crypto.signature (message (requestValue valueHigh valueLow)
        (low16 (requestId idHigh idLow)))) := by
    rw [show emit.1 = _ from returned, oneKey]
    exact emitted_slice _ req reqLength clientTamper _
  obtain ⟨_, outcome⟩ := set_delivers serverWorks.toReliable s stored length transactionId
    coilAddressInverterStatus coilValue (emit.1.1.shift reqLength)
  rw [carried, emitted_valid_iff serverWorks.ideal, low16_requestId, if_pos rfl] at outcome
  refine ⟨congrArg Prod.snd returned, ?_, ?_, ?_, ?_⟩
  · intro i before
    rw [show emit.1 = _ from returned]
    exact ByteMemory.overlay_outside _ _ _ _ (.inl before)
  · rcases outcome with ⟨verdict, accepted, _⟩ | ⟨verdict, refused, _⟩
    · exact ⟨fun _ => accepted, fun _ => verdict⟩
    · refine ⟨fun one => ?_, fun accepted => absurd accepted refused⟩
      exact absurd ((show deliver.1 = -1 from verdict).symm.trans one) refusal_apart
  · intro one
    rcases outcome with ⟨_, ⟨_, _, value⟩, written⟩ | ⟨verdict, _⟩
    · have nonempty := List.length_pos_iff.mpr server.seed.nonempty
      refine ⟨_, written, PackedBits.set_length _ _ _, ?_, fun i other =>
        PackedBits.get_set_other _ _ _ _ other⟩
      rw [PackedBits.get_set_same _ _ _ (by omega), value]
      unfold requestValue
      split <;> rfl
    · exact absurd ((show deliver.1 = -1 from verdict).symm.trans one) refusal_apart
  · intro refused
    rcases outcome with ⟨verdict, _⟩ | ⟨verdict, _, store⟩
    · exact absurd verdict refused
    · exact ⟨verdict, store⟩

/-- An untampered request for 1 under id 7 is accepted by the shipped machine. -/
theorem signed_write_shipped :
    let emit := (invCtrlSignCoilValue 0 7 0xFF 0 (fun _ => 0) 12 0).run Platform.reference.handler
      (.holding [0x00])
    ((invCtrlSetCoilData 7 0x13 1 (emit.1.1.shift 12)).run Platform.reference.handler
      (.holding [0x00])).1 = 1 := by
  obtain ⟨_, _, accepted, _⟩ := signed_write .reference .reference reference_works reference_works
    rfl (.holding [0x00]) (.holding [0x00]) [0x00] (holding_store _) rfl 0 7 0xFF 0 (fun _ => 0) 12
    0 7 1
  exact accepted.mpr ⟨rfl, by decide, by decide⟩

/-- A signed read: accepted exactly if it is checked as it was answered. The two
builders of the signed bytes agree on every id and value. -/
theorem signed_read (clientWorks : client.Works) (serverWorks : server.Works)
    (oneKey : client.env.crypto = server.env.crypto) (c s : World) (bytes : List UInt8)
    (stored : s.tee.store filename = some bytes) (transactionId : Int32)
    (req : ByteMemory) (reqLength : Nat) (serverTamper transactionId' : Int32)
    (coilValue : UInt8) :
    let emit := (invCtrlGetDataByCoilAddress transactionId coilAddressInverterStatus req reqLength
      serverTamper).run server.handler s
    let check := (invCtrlVerifyCoilData transactionId' coilValue
      (emit.1.1.shift (reqLength + 1)) 128).run client.handler c
    emit.1.2 = reqLength + 129 ∧ (∀ i, i < reqLength → emit.1.1 i = req i) ∧
      emit.2.tee.store = s.tee.store ∧
      emit.1.1 reqLength = (if PackedBits.get bytes 0 then 1 else 0) ∧
      (check.1.2 = 1 ↔ serverTamper = 0 ∧
        transactionId'.toInt ≡ transactionId.toInt [ZMOD 2 ^ 16] ∧
        coilValue = emit.1.1 reqLength) ∧
      (check.1.2 ≠ 1 → check.1.2 = -1) ∧
      ∀ (id : Int32) (value : UInt8), hostData id value =
        [value, (id.toUInt32 >>> 8).toUInt8, (id.toUInt32 &&& 0x00ff).toUInt8] := by
  intro emit check
  obtain ⟨returned, store, _⟩ := read_emits serverWorks.toReliable s transactionId
    coilAddressInverterStatus req reqLength serverTamper
  have value : server.env.coilValue server.seed s.tee coilAddressInverterStatus.toUInt32 =
      if PackedBits.get bytes 0 then 1 else 0 := by
    have mapped : coilAddressInverterStatus.toUInt32.toInt32 = coilAddressInverterStatus := rfl
    rw [coilValue_complete serverWorks.succeeds.storage stored]
    simp only [mapped, true_and]
  rw [value] at returned
  have carried : (emit.1.1.shift (reqLength + 1)).slice 0 128 = emitted serverTamper
      (client.env.crypto.signature (message (if PackedBits.get bytes 0 then 1 else 0)
        (low16 transactionId))) := by
    rw [show emit.1 = _ from returned, oneKey]
    exact emitted_slice _ _ (reqLength + 1) serverTamper _
  have answer : emit.1.1 reqLength = if PackedBits.get bytes 0 then 1 else 0 := by
    rw [show emit.1 = _ from returned]
    exact (ByteMemory.overlay_outside _ _ _ _ (.inl (Nat.lt_succ_self _))).trans
      (ByteMemory.write_same _ _ _)
  obtain ⟨_, _, outcome⟩ := verify_delivers clientWorks.toReliable c transactionId' coilValue
    (emit.1.1.shift (reqLength + 1))
  rw [carried, emitted_valid_iff clientWorks.ideal, low16_eq_iff, ← answer] at outcome
  refine ⟨congrArg Prod.snd returned, ?_, store, answer, ?_, ?_, ?_⟩
  · intro i before
    rw [show emit.1 = _ from returned]
    refine (ByteMemory.overlay_outside _ _ _ _ (.inl (by omega))).trans ?_
    exact ByteMemory.write_other _ _ _ _ (by omega)
  · rcases outcome with ⟨verdict, accepted⟩ | ⟨verdict, refused⟩
    · exact ⟨fun _ => accepted, fun _ => verdict⟩
    · refine ⟨fun one => ?_, fun accepted => absurd accepted refused⟩
      exact absurd ((show check.1.2 = -1 from verdict).symm.trans one) refusal_apart
  · intro refused
    exact (outcome.resolve_left fun one => refused one.1).1
  · intro id value
    exact (message_signed value id).trans (message_unsigned value id.toUInt32).symm

/-- An untampered answer for a stored 1 under id -1 is accepted under id 0xFFFF. -/
theorem signed_read_shipped :
    let emit := (invCtrlGetDataByCoilAddress (-1) 0x13 (fun _ => 0) 9 0).run
      Platform.reference.handler (.holding [0x80])
    ((invCtrlVerifyCoilData 0xFFFF 1 (emit.1.1.shift 10) 128).run Platform.reference.handler
      (.holding [0x00])).1.2 = 1 := by
  obtain ⟨_, _, _, answer, accepted, _⟩ := signed_read .reference .reference reference_works
    reference_works rfl (.holding [0x00]) (.holding [0x80]) [0x80] (holding_store _) (-1)
    (fun _ => 0) 9 0 0xFFFF 1
  exact accepted.mpr ⟨rfl, by decide, answer.symm ▸ by decide⟩

end Delivered

end InvCtrl
