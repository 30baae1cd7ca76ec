import InvCtrl.SignatureBuffer

/-! What a read has to have read before it signs. The array is zeroed first, and no
status and no count of the open and the read is looked at, so a read that delivered
nothing is signed as a stored 0. -/
namespace InvCtrl
open Interaction

section Reading

/-- An open that succeeded. -/
def Opens : TeeEvent → Prop
  | ⟨.openPersistentObject _ _, (res, _)⟩ => res = teeSuccess
  | _ => False

/-- A read that succeeded and delivered this many bytes. -/
def Delivers (size : Nat) : TeeEvent → Prop
  | ⟨.readObjectData _ _ _, (res, data)⟩ => res = teeSuccess ∧ data.length = size
  | _ => False

/-- Among these calls the object was opened and read completely. -/
def ReadCompletely (calls : List TeeEvent) (size : Nat) : Prop :=
  (∃ event ∈ calls, Opens event) ∧ ∃ event ∈ calls, Delivers size event

variable (env : Environment) (s : Tee)

theorem taGetAllCoilDataUnpacked_complete_iff (bytes : List UInt8) (size : Nat) (count : UInt32)
    (positive : 0 < size) :
    ReadCompletely ((taGetAllCoilDataUnpacked (.stack bytes) size count).trace env.handler s) size ↔
      (env.coilRead s size).length = size := by
  rw [taGetAllCoilDataUnpacked_trace, ReadCompletely]
  by_cases opens : env.OpensCoil s
  · rw [openPersistentObject_opened opens]
    by_cases read : (env.storage (s.storageCalls + 1)).result = teeSuccess
    · simp [Opens, Delivers, Environment.readObjectData, Tee.addObject, Tee.storageCall, read,
        Environment.coilRead, opens.1]
    · have nothing := Outcome.delivered_failed _ (((s.store filename).getD []).take size) read
      simp [Opens, Delivers, Environment.readObjectData, Tee.addObject, Tee.storageCall, read,
        Environment.coilRead, opens.1, nothing, Nat.ne_of_lt positive]
  · obtain ⟨res, failed, unopened⟩ := openPersistentObject_unopened opens ⟨true, false, false⟩
    rw [unopened, coilRead_unopened opens]
    simp [Opens, failed, Nat.ne_of_lt positive]

/-- Calls that reach no persistent object. -/
def TeeCall.Storageless : TeeCall → Prop
  | .createPersistentObject .. | .openPersistentObject .. | .readObjectData ..
  | .closeObject .. => False
  | _ => True

theorem TeeCall.Quiet.storageless (call : TeeCall) (quiet : call.Quiet) : call.Storageless := by
  cases call with
  | createPersistentObject | openPersistentObject | readObjectData | closeObject =>
    exact quiet.elim
  | _ => trivial

theorem taSign_storageless (dataToSign : Buffer) (dataLen : Nat)
    (signaturePtr signatureLen : UInt32) :
    (taSign dataToSign dataLen signaturePtr signatureLen).Uses TeeCall.Storageless :=
  taSign_uses _ _ _ _ ((taDigestAndKeys_quiet _ _).mono TeeCall.Quiet.storageless)
    (fun _ _ _ => (armOperation_quiet _ _ _).mono TeeCall.Quiet.storageless)
    (fun _ _ _ _ => trivial) (fun _ _ => trivial) fun _ => trivial

theorem readCompletely_append (reading after : List TeeEvent)
    (size : Nat) (storageless : ∀ event ∈ after, event.request.Storageless) :
    ReadCompletely (reading ++ after) size ↔ ReadCompletely reading size := by
  have closed (event : TeeEvent) (member : event ∈ after) :
      ¬ Opens event ∧ ¬ Delivers size event := by
    have none := storageless event member
    obtain ⟨request, reply⟩ := event
    cases request with
    | openPersistentObject | readObjectData => exact none.elim
    | _ => exact ⟨fun opened => opened, fun delivered => delivered⟩
  constructor
  · rintro ⟨⟨opening, first, opened⟩, ⟨last, second, delivered⟩⟩
    refine ⟨⟨opening, ?_, opened⟩, ⟨last, ?_, delivered⟩⟩
    · exact (List.mem_append.mp first).resolve_right fun later => (closed _ later).1 opened
    · exact (List.mem_append.mp second).resolve_right fun later => (closed _ later).2 delivered
  · rintro ⟨⟨opening, first, opened⟩, ⟨last, second, delivered⟩⟩
    exact ⟨⟨opening, List.mem_append_left _ first, opened⟩,
      ⟨last, List.mem_append_left _ second, delivered⟩⟩

end Reading

section Reads
variable {env : Environment} {seed : Seed} {s : Tee} {request : Invocation}

theorem getData_complete_iff (command : request.nCommandID = CommandId.getDataByCoilAddress) :
    ReadCompletely (env.calls seed s request) seed.coilData.length ↔
      env.deliveredCount seed s ((s.store filename).getD []).length = seed.coilData.length := by
  have nonempty := List.length_pos_iff.mpr seed.nonempty
  have read : (env.coilRead (request.supply s) seed.coilData.length).length =
      env.deliveredCount seed s ((s.store filename).getD []).length := by
    have bound := deliveredCount_le env seed s ((s.store filename).getD []).length
    have same : env.coilRead (request.supply s) = env.coilRead s := rfl
    rw [same, coilRead_eq_take, List.length_take]
    omega
  rw [Environment.calls, program_getDataByCoilAddress seed command]
  simp only [taGetDataByCoilAddress, Program.trace_bind, Program.trace_pure, List.append_nil]
  rw [readCompletely_append _ _ _ fun event member =>
    (taSign_storageless _ _ _ _).trace env.handler _ member]
  rw [taGetAllCoilDataUnpacked_complete_iff _ _ _ _ _ nonempty, read]

variable (env seed s request)

/-- The command outputs a signature that verifies for the value it reports and the id
of the request. -/
def OutputsSigned : Prop :=
  let r := env.invoke seed request s
  env.crypto.valid (message r.1.2.p2.a.toUInt8 request.pParams.p0.a.toUInt16)
    ((r.2.memory request.pParams.p1.buffer).slice 0 r.1.2.p1.b.toNat) = true

/-- A read that signs only what it has read, and reports an error otherwise. -/
structure SignsWhatItRead : Prop where
  read : OutputsSigned env seed s request →
    ReadCompletely (env.calls seed s request) seed.coilData.length ∧
      (env.invoke seed request s).1.2.p2.a = if s.coil then 1 else 0
  refused : ¬ ReadCompletely (env.calls seed s request) seed.coilData.length →
    (env.invoke seed request s).1.1 ≠ teeSuccess ∧ ¬ OutputsSigned env seed s request

variable {env seed s request}

theorem getData_outputs_signed (command : request.nCommandID = CommandId.getDataByCoilAddress)
    (working : env.SignWorks s.cryptoCalls)
    (correct : ∀ m, m.length = 3 → env.crypto.valid m (env.crypto.signature m) = true) :
    OutputsSigned env seed s request := by
  have signs : SignsBytes env seed s request _ := .inl ⟨command, rfl⟩
  obtain ⟨_, works, outcome⟩ := signing_outcome signs
  obtain ⟨reported, _⟩ := (invoke_effect env seed request s).getData command
  have length := works.mpr working
  rcases outcome with ⟨_, written, _⟩ | ⟨failed, _⟩
  · have count : (128 : UInt32).toNat = (env.crypto.signature (message
        (env.coilValue seed s request.pParams.p0.b) request.pParams.p0.a.toUInt16)).length := by
      rw [Crypto.signature_length]
      rfl
    rw [OutputsSigned, reported, UInt8.toUInt8_toUInt32, written, length, count,
      ByteMemory.slice_overlay]
    exact correct _ (message_length _ _)
  · exact absurd (length.symm.trans failed) (by decide)

theorem getData_complete_value (command : request.nCommandID = CommandId.getDataByCoilAddress)
    (mapped : request.pParams.p0.b.toInt32 = coilAddressInverterStatus)
    (complete : env.deliveredCount seed s ((s.store filename).getD []).length =
      seed.coilData.length) :
    (env.invoke seed request s).1.2.p2.a = if s.coil then 1 else 0 := by
  have nonempty := List.length_pos_iff.mpr seed.nonempty
  have first : 0 < 8 * seed.coilData.length := by omega
  obtain ⟨reported, _⟩ := (invoke_effect env seed request s).getData command
  rw [reported, Environment.coilValue, taGetCoilValue_address, coilCopy_bits, complete,
    decide_eq_true first, Bool.true_and, Tee.coil]
  simp only [mapped, true_and]
  split <;> rfl

theorem SignsWhatItRead.complete (honest : SignsWhatItRead env seed s request)
    (command : request.nCommandID = CommandId.getDataByCoilAddress)
    (working : env.SignWorks s.cryptoCalls)
    (correct : ∀ m, m.length = 3 → env.crypto.valid m (env.crypto.signature m) = true) :
    env.deliveredCount seed s ((s.store filename).getD []).length = seed.coilData.length :=
  (getData_complete_iff command).mp
    (honest.read (getData_outputs_signed command working correct)).1

/-- A read of the coil signs only what it has read exactly if the open succeeds on an
existing object and the read delivers every byte. -/
theorem signs_what_it_read_iff (command : request.nCommandID = CommandId.getDataByCoilAddress)
    (mapped : request.pParams.p0.b.toInt32 = coilAddressInverterStatus)
    (working : env.SignWorks s.cryptoCalls)
    (correct : ∀ m, m.length = 3 → env.crypto.valid m (env.crypto.signature m) = true) :
    SignsWhatItRead env seed s request ↔
      env.deliveredCount seed s ((s.store filename).getD []).length = seed.coilData.length := by
  constructor
  · intro honest
    exact honest.complete command working correct
  · intro complete
    have whole := (getData_complete_iff command).mpr complete
    refine ⟨fun _ => ⟨whole, ?_⟩, fun incomplete => absurd whole incomplete⟩
    exact getData_complete_value command mapped complete

end Reads

section Shipped

theorem reference_correct (m : List UInt8) (whole : m.length = 3) :
    Crypto.reference.valid m (Crypto.reference.signature m) = true :=
  (reference_valid m _).mpr ⟨whole, rfl⟩

/-- With no failure a stored 1 is signed as it was read. -/
theorem signs_what_it_read_shipped :
    SignsWhatItRead .reference .shipped (.holding [0x80]) (.getCoil 7 0x13) := by
  refine (signs_what_it_read_iff (getCoil_command 7 0x13) rfl
    (reference_succeeds.crypto.signWorks _) reference_correct).mpr ?_
  rw [holding_store]
  rfl

/-- An open that fails while the coil is 1 ends in a signature on 0, and so does a read
before any seed. -/
theorem signs_unread :
    ¬ SignsWhatItRead (.failingAt 0) .shipped (.holding [0x80]) (.getCoil 7 0x13) ∧
      ¬ SignsWhatItRead .reference .shipped .fresh (.getCoil 7 0x13) := by
  constructor
  · intro honest
    have complete := honest.complete (getCoil_command 7 0x13) (fun _ _ => rfl) reference_correct
    rw [holding_store] at complete
    cases complete
  · intro honest
    have complete := honest.complete (getCoil_command 7 0x13) (fun _ _ => rfl) reference_correct
    cases complete

end Shipped

end InvCtrl
