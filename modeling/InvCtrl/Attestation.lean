import InvCtrl.Agreement
import InvCtrl.StorageFailure

/-! What an accepted read says about a server whose normal world invokes the trusted
application as it likes. Two commands sign: a read signs what it read, under the id
and for the address the caller chose, and a signing signs any bytes. -/
namespace InvCtrl
open Execution

section Commands
variable {env : Environment} {seed : Seed} {request : Invocation} {s t : Tee} {res : TeeResult}
  {params : TeeParams}

/-- The command signs these bytes. -/
def SignsBytes (env : Environment) (seed : Seed) (s : Tee) (request : Invocation)
    (m : List UInt8) : Prop :=
  (request.nCommandID = CommandId.getDataByCoilAddress ∧
    m = message (env.coilValue seed s request.pParams.p0.b) request.pParams.p0.a.toUInt16) ∨
  (request.nCommandID = CommandId.signCoilData ∧ m = request.bytes request.pParams.p0)

theorem SigningResult.grows {m : List UInt8} (result : SigningResult env s m pointer t len) :
    t.signed = s.signed ∨ t.signed = s.signed ++ [(m, env.crypto.signature m)] := by
  rcases result.outcome with ⟨_, _, added⟩ | ⟨_, _, same⟩
  · exact .inr added
  · exact .inl same

theorem Effect.signed (effect : Effect env seed request s res params t) :
    t.signed = s.signed ∨
      ∃ m, SignsBytes env seed s request m ∧
        t.signed = s.signed ++ [(m, env.crypto.signature m)] := by
  cases effect with
  | seedCoil _ visible | setAccepted _ _ visible | setRejected _ _ visible =>
    exact .inl (congrArg (·.2.2.1) visible)
  | getAllCoilData _ _ same => exact .inl same
  | verifyCoilData _ _ verified => exact .inl (congrArg (·.2.2.1) verified.visible)
  | unknown => exact .inl rfl
  | getDataByCoilAddress _ command result =>
    rw [message_unsigned] at result
    exact result.grows.imp_right fun added => ⟨_, .inl ⟨command, rfl⟩, added⟩
  | signCoilData _ command result =>
    exact result.grows.imp_right fun added => ⟨_, .inr ⟨command, rfl⟩, added⟩

end Commands

section Runs
variable {env : Environment} {seed : Seed} {start s : Tee}
  {history : History Invocation (TeeResult × TeeParams)}

/-- Every message under the key was put there by a command of the run. -/
theorem signed_command (unsigned : start.signed = [])
    (run : Run (application env seed) start history s) {m issued : List UInt8}
    (member : (m, issued) ∈ s.signed) :
    ∃ before request output after u, history = before ++ (request, output) :: after ∧
      Run (application env seed) start before u ∧ SignsBytes env seed u request m := by
  have absent : (m, issued) ∉ start.signed := by
    rw [unsigned]
    exact List.not_mem_nil
  obtain ⟨before, request, output, after, u, split, first, _, _, missing, produced⟩ :=
    run.origin (fun s => (m, issued) ∈ s.signed) absent member
  rcases (invoke_effect env seed request u).signed with same | ⟨m', signs, added⟩
  · have present : (m, issued) ∈ u.signed := same ▸ produced
    exact absurd present missing
  · have present : (m, issued) ∈ u.signed ++ [_] := added ▸ produced
    rcases List.mem_append.mp present with old | new
    · exact absurd old missing
    · obtain ⟨rfl, _⟩ := Prod.mk.inj (List.mem_singleton.mp new)
      exact ⟨before, request, output, after, u, split, first, signs⟩

theorem coilValue_sound (coilAddress : UInt32) (set : env.coilValue seed s coilAddress ≠ 0) :
    env.coilValue seed s coilAddress = 1 ∧ coilAddress.toInt32 = coilAddressInverterStatus ∧
      s.coil = true := by
  rw [Environment.coilValue, taGetCoilValue_address] at set ⊢
  by_cases shown : coilAddress.toInt32 = coilAddressInverterStatus ∧
      PackedBits.get (env.coilCopy seed s) 0 = true
  · exact ⟨if_pos shown, shown.1, coilCopy_set env seed s shown.2⟩
  · exact absurd (if_neg shown) set

/-- Whatever the normal world invokes, a value that a client accepts under an id was
reported by a read under that id, or the normal world had those very bytes signed. A
reported value other than 0 is 1, as the stored coil is; a reported 0 is the stored coil if the
read was for the coil and storage succeeded. -/
theorem read_attestation {client : Platform} (delivers : client.Delivers)
    (oneKey : client.env.crypto = env.crypto) (c : World) (unsigned : start.signed = [])
    (run : Run (application env seed) start history s) (transactionId : Int32)
    (coilValue : UInt8) (signature : ByteMemory)
    (unforged : Unforged env.crypto s.signed (signature.slice 0 128))
    (accepted : ((invCtrlVerifyCoilData transactionId coilValue signature 128).run
      client.handler c).1.2 = 1) :
    ∃ before request output after u, history = before ++ (request, output) :: after ∧
      Run (application env seed) start before u ∧
      ((request.nCommandID = CommandId.getDataByCoilAddress ∧
        request.pParams.p0.a.toUInt16 = low16 transactionId ∧
        (coilValue ≠ 0 → coilValue = 1 ∧
          request.pParams.p0.b.toInt32 = coilAddressInverterStatus ∧ u.coil = true) ∧
        (env.StorageSucceeds → request.pParams.p0.b.toInt32 = coilAddressInverterStatus →
          coilValue = if u.coil then 1 else 0)) ∨
      (request.nCommandID = CommandId.signCoilData ∧
        request.bytes request.pParams.p0 = message coilValue (low16 transactionId))) := by
  obtain ⟨_, _, ⟨_, valid⟩ | ⟨refused, _⟩⟩ :=
    invCtrlVerifyCoilData_run delivers c transactionId coilValue signature
  · rw [oneKey] at valid
    obtain ⟨issued, member⟩ := unforged _ valid
    obtain ⟨before, request, output, after, u, split, first, signs⟩ :=
      signed_command unsigned run member
    refine ⟨before, request, output, after, u, split, first, ?_⟩
    rcases signs with ⟨command, reported⟩ | ⟨command, data⟩
    · obtain ⟨rfl, ids⟩ := message_inj.mp reported
      refine .inl ⟨command, ids.symm, coilValue_sound _, ?_⟩
      intro storage mapped
      rw [coilValue_coil storage, mapped]
      simp only [true_and]
    · exact .inr ⟨command, data.symm⟩
  · exact absurd (refused.symm.trans accepted) refusal_apart

end Runs

section Shipped
variable (s : Tee)

/-- A signing of these bytes, which lie behind a pointer of their own. -/
def Invocation.signCoil (data : List UInt8) : Invocation where
  nCommandID := CommandId.signCoilData
  nParamTypes := 0
  pParams := { p0 := ⟨1, UInt32.ofNat data.length⟩, p1 := ⟨2, 512⟩, p2 := ⟨0, 0⟩, p3 := ⟨0, 0⟩ }
  memory _ := ByteMemory.ofBytes data

theorem signCoil_command (data : List UInt8) :
    (Invocation.signCoil data).nCommandID = CommandId.signCoilData := rfl

theorem signCoil_data (data : List UInt8) (fits : data.length < 2 ^ 32) :
    (Invocation.signCoil data).bytes (Invocation.signCoil data).pParams.p0 = data := by
  simp only [Invocation.bytes, Invocation.signCoil, TeeParam.size, UInt32.toNat_ofNat_of_lt' fits,
    ByteMemory.slice_ofBytes]

theorem invoke_signData {env : Environment} (seed : Seed) (s : Tee) (succeeds : env.Succeeds)
    (request : Invocation) (signing : request.nCommandID = CommandId.signCoilData) :
    let r := env.invoke seed request s
    let m := request.bytes request.pParams.p0
    (r.2.memory request.pParams.p1.buffer).slice 0 128 = env.crypto.signature m ∧
      r.2.signed = s.signed ++ [(m, env.crypto.signature m)] := by
  intro r m
  obtain ⟨_, signed, memory⟩ :=
    ((invoke_effect env seed request s).signData signing).complete succeeds.crypto
  refine ⟨?_, signed⟩
  have stored := ByteMemory.slice_overlay (request.memory request.pParams.p1.buffer) 0
    (env.crypto.signature m)
  rw [env.crypto.signature_length] at stored
  rw [memory, Function.update_self]
  exact stored

theorem reference_attests {log : List (List UInt8 × List UInt8)} {issued : List UInt8}
    (transactionId : Int32) (coilValue : UInt8) (signature : ByteMemory)
    (member : (message coilValue (low16 transactionId), issued) ∈ log)
    (presented : signature.slice 0 128 =
      Crypto.reference.signature (message coilValue (low16 transactionId))) :
    Unforged .reference log (signature.slice 0 128) ∧
      ((invCtrlVerifyCoilData transactionId coilValue signature 128).run
        Platform.reference.handler (.holding [0x00])).1.2 = 1 := by
  obtain ⟨unforged, valid⟩ := reference_presents member presented
  obtain ⟨_, _, ⟨verdict, _⟩ | ⟨_, refused⟩⟩ := verify_delivers reference_works.toReliable
    (.holding [0x00]) transactionId coilValue signature
  · exact ⟨unforged, verdict⟩
  · exact absurd valid refused

/-- A read of a stored 1 that the reference client accepts under its id. -/
theorem read_attestation_reference : ∃ history s,
    Run (application .reference .shipped) (.holding [0x80]) history s ∧
    ∃ before request output after u, history = before ++ (request, output) :: after ∧
      Run (application .reference .shipped) (.holding [0x80]) before u ∧
      (request.nCommandID = CommandId.getDataByCoilAddress ∧ u.coil = true ∨
        request.nCommandID = CommandId.signCoilData) := by
  let request := Invocation.getCoil 7 0x13
  have run := Run.single (M := application .reference .shipped) (.holding [0x80]) request trivial rfl
  obtain ⟨_, _, presented, signed⟩ := invoke_getData .shipped reference_succeeds
    request (holding_store [0x80]) (getCoil_command 7 0x13)
  have value : (if request.pParams.p0.b.toInt32 = coilAddressInverterStatus ∧
      PackedBits.get [0x80] 0 then 1 else 0 : UInt8) = 1 := by
    change (if (0x13 : UInt32).toInt32 = coilAddressInverterStatus ∧ _ then 1 else 0 : UInt8) = 1
    decide
  have numbered : request.pParams.p0.a.toUInt16 = low16 7 := by
    change (7 : UInt32).toUInt16 = low16 7
    decide
  rw [value, message_unsigned, numbered] at presented signed
  obtain ⟨unforged, accepted⟩ := reference_attests 7 1 _
    (signed ▸ List.mem_append_right _ List.mem_cons_self) presented
  obtain ⟨before, origin, output, after, u, split, first, ⟨read, _, set, _⟩ | ⟨signing, _⟩⟩ :=
    read_attestation reference_works.delivers rfl (.holding [0x00]) rfl run 7 1 _ unforged accepted
  · exact ⟨_, _, run, before, origin, output, after, u, split, first,
      .inl ⟨read, (set (by decide)).2.2⟩⟩
  · exact ⟨_, _, run, before, origin, output, after, u, split, first, .inr signing⟩

/-- From this store the normal world obtains a signature that the client accepts for the
value under id 7 without any read of the coil. -/
def AttestsUnread (coilData : List UInt8) (coilValue : UInt8) : Prop :=
  ∃ history s signature, Run (application .reference .shipped) (.holding coilData) history s ∧
    Unforged .reference s.signed (signature.slice 0 128) ∧
    ((invCtrlVerifyCoilData 7 coilValue signature 128).run Platform.reference.handler
      (.holding [0x00])).1.2 = 1 ∧
    ∀ event, event ∈ history → ¬ (event.1.nCommandID = CommandId.getDataByCoilAddress ∧
      event.1.pParams.p0.b.toInt32 = coilAddressInverterStatus)

theorem attestsUnread_of (coilData : List UInt8) (coilValue : UInt8) (request : Invocation)
    (unread : ¬ (request.nCommandID = CommandId.getDataByCoilAddress ∧
      request.pParams.p0.b.toInt32 = coilAddressInverterStatus))
    (presented : ((Environment.reference.invoke .shipped request (.holding coilData)).2.memory
      request.pParams.p1.buffer).slice 0 128 = Crypto.reference.signature (message coilValue 7))
    (signed : (message coilValue 7, Crypto.reference.signature (message coilValue 7)) ∈
      (Environment.reference.invoke .shipped request (.holding coilData)).2.signed) :
    AttestsUnread coilData coilValue := by
  have run := Run.single (M := application .reference .shipped) (.holding coilData) request trivial rfl
  obtain ⟨unforged, accepted⟩ := reference_attests 7 coilValue _ signed presented
  refine ⟨_, _, _, run, unforged, accepted, ?_⟩
  intro event member
  obtain rfl := List.mem_singleton.mp member
  exact unread

/-- Signing the bytes of a 1 attests it while the coil is 0, and a read of an unmapped
address attests a 0 while the coil is 1. -/
theorem attests_unread : AttestsUnread [0x00] 1 ∧ AttestsUnread [0x80] 0 := by
  constructor
  · obtain ⟨presented, signed⟩ := invoke_signData .shipped (.holding [0x00])
      reference_succeeds (.signCoil (message 1 7)) (signCoil_command _)
    rw [signCoil_data _ (by decide)] at presented signed
    refine attestsUnread_of [0x00] 1 (.signCoil (message 1 7)) ?_ presented
      (signed ▸ List.mem_append_right _ List.mem_cons_self)
    rintro ⟨command, _⟩
    exact absurd ((signCoil_command _).symm.trans command) (by decide)
  · obtain ⟨_, _, presented, signed⟩ := invoke_getData .shipped reference_succeeds
      (.getCoil 7 0x14) (holding_store [0x80]) (getCoil_command 7 0x14)
    have elsewhere : (Invocation.getCoil 7 0x14).pParams.p0.b.toInt32 ≠ coilAddressInverterStatus := by
      change (0x14 : UInt32).toInt32 ≠ coilAddressInverterStatus
      decide
    simp only [elsewhere, false_and, ↓reduceIte] at presented signed
    refine attestsUnread_of [0x80] 0 (.getCoil 7 0x14) (fun read => elsewhere read.2) presented
      (signed ▸ List.mem_append_right _ List.mem_cons_self)

end Shipped

end InvCtrl
