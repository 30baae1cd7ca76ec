import InvCtrl.EndToEnd

/-! A set and the read that follows it, at every 32-bit coil address. The application
maps one address to a bit; every other one gets bit number -1 from the lookup, and
neither operation looks at it again before its index arithmetic. -/
namespace InvCtrl
open Interaction

section Range

def utBitsAddress : UInt16 := 0x13
def utBitsNb : UInt16 := 0x25

/-- The coil addresses of the server's mapping. -/
def ServerMaps (coilAddress : Int32) : Prop :=
  utBitsAddress.toNat ≤ coilAddress.toInt ∧
    coilAddress.toInt < utBitsAddress.toNat + utBitsNb.toNat

instance (coilAddress : Int32) : Decidable (ServerMaps coilAddress) :=
  inferInstanceAs (Decidable (_ ∧ _))

theorem taGetBitNumberForCoil_unmapped_iff (coilAddress : Int32) :
    taGetBitNumberForCoil coilAddress = -1 ↔ coilAddress ≠ coilAddressInverterStatus := by
  unfold taGetBitNumberForCoil
  split
  · next mapped => exact ⟨fun absent => absurd absent (by decide), fun other => absurd mapped other⟩
  · next other => exact ⟨fun _ => other, fun _ => rfl⟩

end Range

section Sequence
variable {platform : Platform} (reliable : platform.Reliable) (w : World) {bytes : List UInt8}
  (stored : w.tee.store filename = some bytes)
  (length : bytes.length = platform.seed.coilData.length)
  (transactionId coilAddress : Int32) (coilValue : UInt8) (signature : ByteMemory) (len : Nat)
  (fits : len < 2 ^ 31)
  (valid : platform.env.crypto.valid (message coilValue (low16 transactionId))
    (signature.slice 0 len) = true)
include reliable

theorem hostGet_answers (stored : w.tee.store filename = some bytes)
    (transactionId coilAddress : Int32) (coilValue : UInt8) (signature : ByteMemory)
    (signatureLen : Int32) :
    let r := (hostGetDataByCoilAddress transactionId coilAddress coilValue signature
      signatureLen).run platform.handler w
    let value : UInt8 :=
      if coilAddress = coilAddressInverterStatus ∧ PackedBits.get bytes 0 then 1 else 0
    r.1.2.1 = value ∧ r.1.2.2.1.slice 0 (loopCount r.1.2.2.2) =
      platform.env.crypto.signature (message value (low16 transactionId)) := by
  intro r value
  have reads : platform.env.coilValue platform.seed w.tee coilAddress.toUInt32 = value :=
    coilValue_complete reliable.succeeds.storage stored coilAddress.toUInt32
  obtain ⟨out, reported, count, copied, _, ⟨signed, _⟩ | ⟨failing, _⟩⟩ :=
    hostGetDataByCoilAddress_run reliable.delivers w transactionId coilAddress coilValue signature
      signatureLen
  · rw [reads] at reported signed
    refine ⟨reported, ?_⟩
    rw [count, copied, ByteMemory.slice_overlay, signed]
  · exact absurd reliable.succeeds.crypto failing

include stored length fits valid

theorem hostSet_accepts :
    let r := (hostSetCoilData1 transactionId coilAddress coilValue signature
      (Int32.ofNat len)).run platform.handler w
    r.1 = 1 ∧ r.2.tee.store filename =
      some (if coilAddress = coilAddressInverterStatus then
        PackedBits.set bytes 0 (coilValue ≠ 0) else bytes) := by
  intro r
  obtain ⟨_, ⟨verdict, _, store⟩ | ⟨_, refused, _⟩⟩ := hostSetCoilData1_run reliable.delivers w
    transactionId coilAddress coilValue signature len fits
  · refine ⟨verdict, ?_⟩
    have address : coilAddress.toUInt32.toInt32 = coilAddress := rfl
    have value : coilValue.toUInt32.toUInt8 = coilValue := UInt8.toUInt8_toUInt32 coilValue
    rw [show r.2.tee.store = _ from store, if_pos (reliable.succeeds.storage.result _),
      Function.update_self, coilUpdate_complete reliable.succeeds.storage stored length, address,
      value]
  · exact absurd ⟨reliable.succeeds.crypto, valid⟩ refused

/-- A set and then a read of one address: the set reports 1, and the read signs the
value written if the address is mapped and 0 if it is not. -/
theorem set_then_get (bit : coilValue = 0 ∨ coilValue = 1) (transactionId' : Int32) (value : UInt8)
    (answer : ByteMemory) (answerLen : Int32) :
    let set := (hostSetCoilData1 transactionId coilAddress coilValue signature
      (Int32.ofNat len)).run platform.handler w
    let get := (hostGetDataByCoilAddress transactionId' coilAddress value answer
      answerLen).run platform.handler set.2
    let seen := if coilAddress = coilAddressInverterStatus then coilValue else 0
    set.1 = 1 ∧ get.1.2.1 = seen ∧ get.1.2.2.1.slice 0 (loopCount get.1.2.2.2) =
      platform.env.crypto.signature (message seen (low16 transactionId')) := by
  intro set get seen
  obtain ⟨one, written⟩ := hostSet_accepts reliable w stored length transactionId coilAddress
    coilValue signature len fits valid
  obtain ⟨reported, signed⟩ := hostGet_answers reliable set.2 written transactionId' coilAddress
    value answer answerLen
  have same : (if coilAddress = coilAddressInverterStatus ∧
      PackedBits.get (if coilAddress = coilAddressInverterStatus then
        PackedBits.set bytes 0 (coilValue ≠ 0) else bytes) 0 then 1 else 0) = seen := by
    have nonempty := List.length_pos_iff.mpr platform.seed.nonempty
    by_cases mapped : coilAddress = coilAddressInverterStatus
    · simp only [seen, mapped, true_and, ↓reduceIte]
      rw [PackedBits.get_set_same _ _ _ (by omega)]
      rcases bit with rfl | rfl <;> decide
    · simp only [seen, mapped, false_and, ↓reduceIte]
  rw [same] at reported signed
  exact ⟨one, reported, signed⟩

end Sequence

section Law
variable (platform : Platform) (w : World)

/-- A refused set or a read that yields the value, whatever the reader's variables hold
before; and no reported success of either for an address without a bit. -/
def ReadsItsWrite (transactionId transactionId' coilAddress : Int32) (coilValue : UInt8)
    (signature : ByteMemory) (len : Nat) : Prop :=
  ∀ (value : UInt8) (answer : ByteMemory) (answerLen : Int32),
    let set := (hostSetCoilData1 transactionId coilAddress coilValue signature
      (Int32.ofNat len)).run platform.handler w
    let get := (hostGetDataByCoilAddress transactionId' coilAddress value answer
      answerLen).run platform.handler set.2
    (set.1 ≠ 1 ∨ get.1.2.1 = coilValue) ∧
      (taGetBitNumberForCoil coilAddress = -1 → set.1 ≠ 1 ∧
        ¬ platform.env.crypto.valid (message 0 (low16 transactionId'))
          (get.1.2.2.1.slice 0 (loopCount get.1.2.2.2)) = true)

variable {platform w}

/-- The law holds at the one address the application maps. -/
theorem reads_its_write_iff (reliable : platform.Reliable) {bytes : List UInt8}
    (stored : w.tee.store filename = some bytes)
    (length : bytes.length = platform.seed.coilData.length)
    (transactionId transactionId' coilAddress : Int32) (coilValue : UInt8)
    (bit : coilValue = 0 ∨ coilValue = 1) (signature : ByteMemory) (len : Nat)
    (fits : len < 2 ^ 31)
    (valid : platform.env.crypto.valid (message coilValue (low16 transactionId))
      (signature.slice 0 len) = true) :
    ReadsItsWrite platform w transactionId transactionId' coilAddress coilValue signature len ↔
      coilAddress = coilAddressInverterStatus := by
  have outcome := set_then_get reliable w stored length transactionId coilAddress coilValue
    signature len fits valid bit transactionId'
  constructor
  · intro law
    by_contra unmapped
    obtain ⟨one, _⟩ := outcome 0 (fun _ => 0) 0
    obtain ⟨_, refuses⟩ := law 0 (fun _ => 0) 0
    exact (refuses ((taGetBitNumberForCoil_unmapped_iff coilAddress).mpr unmapped)).1 one
  · intro mapped value answer answerLen set get
    obtain ⟨_, reported, _⟩ := outcome value answer answerLen
    rw [if_pos mapped] at reported
    exact ⟨.inr reported, fun absent =>
      absurd mapped ((taGetBitNumberForCoil_unmapped_iff coilAddress).mp absent)⟩

theorem reference_presented (coilValue : UInt8) (id : UInt16) :
    Crypto.reference.valid (message coilValue id)
      ((ByteMemory.ofBytes (Crypto.reference.signature (message coilValue id))).slice 0 128) =
        true := by
  have whole := ByteMemory.slice_ofBytes (Crypto.reference.signature (message coilValue id))
  rw [Crypto.signature_length] at whole
  rw [whole]
  exact (reference_valid _ _).mpr ⟨rfl, rfl⟩

/-- A 1 written to the mapped coil of the shipped machine is read back. -/
theorem reads_its_write_shipped :
    ReadsItsWrite .reference (.holding [0x00]) 7 8 0x13 1
      (.ofBytes (Crypto.reference.signature (message 1 (low16 7)))) 128 :=
  (reads_its_write_iff reference_works.toReliable (holding_store [0x00]) rfl 7 8 0x13 1 (.inr rfl)
    _ 128 (by decide) (reference_presented 1 (low16 7))).mpr rfl

/-- A 1 written to the server's second coil is reported as done, and the coil reads 0. -/
theorem write_lost :
    ServerMaps 0x14 ∧ ¬ ReadsItsWrite .reference (.holding [0x00]) 7 8 0x14 1
      (.ofBytes (Crypto.reference.signature (message 1 (low16 7)))) 128 := by
  refine ⟨by decide, fun law => ?_⟩
  obtain ⟨one, reported, _⟩ := set_then_get reference_works.toReliable (.holding [0x00])
    (holding_store [0x00]) rfl 7 0x14 1 _ 128 (by decide) (reference_presented 1 (low16 7))
    (.inr rfl) 8 0 (fun _ => 0) 0
  rcases (law 0 (fun _ => 0) 0).1 with refused | same
  · exact refused one
  · exact absurd (reported.symm.trans same) (by decide)

end Law

end InvCtrl
