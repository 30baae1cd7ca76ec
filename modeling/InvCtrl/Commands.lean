import InvCtrl.Signing
import InvCtrl.Ideal

/-! What each command of the trusted application can do, under every pattern of
storage and cryptographic failures: its outputs and the visible part of the state. -/
namespace InvCtrl
open Interaction

/-- The state after `count` more storage calls. -/
def Tee.advance (s : Tee) (count : Nat) : Tee := { s with storageCalls := s.storageCalls + count }

@[simp] theorem visible_advance (s : Tee) (count : Nat) :
    (s.advance count).visible = (s.store, s.memory, s.signed, s.storageCalls + count) := rfl

theorem advance_of_visible {t : Tee} (visible : t.visible = (store, memory, signed, calls))
    (count : Nat) : (t.advance count).visible = (store, memory, signed, calls + count) := by
  obtain ⟨rfl, rfl, rfl, rfl⟩ : t.store = store ∧ t.memory = memory ∧ t.signed = signed ∧
      t.storageCalls = calls := by simpa only [Tee.visible, Prod.mk.injEq] using visible
  exact visible_advance t count

section Storage
variable (env : Environment) (s : Tee)

/-- The bytes that opening and reading the coil object deliver. -/
def Environment.coilRead (size : Nat) : List UInt8 :=
  if (env.storage s.storageCalls).result = teeSuccess then
    (env.storage (s.storageCalls + 1)).delivered (((s.store filename).getD []).take size)
  else []

/-- The parameter memory once data has been delivered through a pointer argument. -/
def Buffer.deliver (data : List UInt8) (memory : UInt32 → ByteMemory) : Buffer → UInt32 → ByteMemory
  | .stack _ => memory
  | .shared pointer => Function.update memory pointer ((memory pointer).overlay 0 data)

@[simp] theorem Buffer.fill_nil (buffer : Buffer) : buffer.fill [] = buffer := by
  cases buffer <;> rfl

@[simp] theorem Buffer.deliver_nil (buffer : Buffer) (memory : UInt32 → ByteMemory) :
    buffer.deliver [] memory = memory := by
  cases buffer with
  | stack => rfl
  | shared pointer => simp [Buffer.deliver]

theorem Outcome.delivered_failed (outcome : Outcome) (data : List UInt8)
    (failed : outcome.result ≠ teeSuccess) : outcome.delivered data = [] := by
  cases outcome with
  | ok | short => exact absurd rfl failed
  | error => rfl

theorem Outcome.delivered_prefix (outcome : Outcome) (data : List UInt8) :
    outcome.delivered data <+: data := by
  cases outcome with
  | ok => exact List.prefix_refl data
  | short count => exact List.take_prefix count data
  | error => exact List.nil_prefix

theorem Outcome.delivered_nil (outcome : Outcome) : outcome.delivered [] = [] := by
  cases outcome <;> simp [Outcome.delivered]

theorem visible_closed (object : Handle) (s : Tee) :
    ((taClosePersistentObject object).run env.handler s).2.visible = (s.advance 1).visible := by
  simp only [taClosePersistentObject, Program.run_bind, Program.run_perform, Program.run_pure,
    Environment.handler, Environment.closeObject]
  split
  · exact visible_setObject s.storageCall object none
  · rfl

theorem taOpenPersistentObject_cases (objectID : List UInt8) (flags : DataFlags)
    (object : Handle) :
    (∃ old, s.store objectID = some old ∧ (env.storage s.storageCalls).result = teeSuccess ∧
      (taOpenPersistentObject objectID flags object).run env.handler s =
        ((teeSuccess, .live s.next), s.storageCall.addObject (.persistent objectID flags 0))) ∨
    (¬ ((s.store objectID).isSome ∧ (env.storage s.storageCalls).result = teeSuccess) ∧
      ∃ res, (taOpenPersistentObject objectID flags object).run env.handler s =
        ((res, object), s.storageCall)) := by
  have absent : teeErrorItemNotFound ≠ teeSuccess := by decide
  by_cases opened : (env.storage s.storageCalls).result = teeSuccess
  · cases stored : s.store objectID with
    | some old =>
      exact .inl ⟨old, rfl, opened, by simp [taOpenPersistentObject, Environment.handler,
        Environment.openPersistentObject, opened, stored]⟩
    | none =>
      exact .inr ⟨by simp, teeErrorItemNotFound, by simp [taOpenPersistentObject,
        Environment.handler, Environment.openPersistentObject, opened, stored, absent]⟩
  · refine .inr ⟨fun both => opened both.2, (env.storage s.storageCalls).result, ?_⟩
    simp [taOpenPersistentObject, Environment.handler, Environment.openPersistentObject, opened]

theorem taReadPersistentObject_held (object : Handle) (buffer : Buffer) (size : Nat)
    (count : UInt32) (held : s.object object = some (.persistent objectID flags position)) :
    let r := (taReadPersistentObject object buffer size count).run env.handler s
    let data := (env.storage s.storageCalls).delivered
      ((((s.store objectID).getD []).drop position).take size)
    r.1.2.1 = buffer.fill data ∧
      r.2.visible = (s.store, buffer.deliver data s.memory, s.signed, s.storageCalls + 1) := by
  intro r data
  by_cases success : (env.storage s.storageCalls).result = teeSuccess
  · have run : r = ((teeSuccess, buffer.fill data, UInt32.ofNat data.length), r.2) := by
      simp only [r, data, taReadPersistentObject, Program.run_bind, Program.run_perform,
        Program.run_pure, Environment.handler, Environment.readObjectData, held, success]
      cases buffer <;> rfl
    refine ⟨by rw [run], ?_⟩
    simp only [r, data, taReadPersistentObject, Program.run_bind, Program.run_perform,
      Program.run_pure, Environment.handler, Environment.readObjectData, held, success]
    cases buffer with
    | stack bytes => exact visible_setObject s.storageCall object _
    | shared pointer =>
      cases object <;> rfl
  · have nothing : data = [] := Outcome.delivered_failed _ _ success
    rw [nothing, Buffer.fill_nil, Buffer.deliver_nil]
    constructor <;> simp [r, taReadPersistentObject, Environment.handler,
      Environment.readObjectData, held, success, Tee.storageCall, Tee.visible]

/-- A read through a handle that was never obtained changes nothing. -/
theorem taReadPersistentObject_unobtained (buffer : Buffer) (size : Nat) (count : UInt32) :
    (taReadPersistentObject .indeterminate buffer size count).run env.handler s =
      ((teeErrorBadState, buffer, count), s.storageCall) := rfl

theorem taGetAllCoilDataUnpacked_run (buffer : Buffer) (size : Nat) (count : UInt32) :
    let r := (taGetAllCoilDataUnpacked buffer size count).run env.handler s
    let data := env.coilRead s size
    r.1.1 = teeSuccess ∧ r.1.2.1 = buffer.fill data ∧
      r.2.visible = (s.store, buffer.deliver data s.memory, s.signed, s.storageCalls + 3) := by
  intro r data
  simp only [r, taGetAllCoilDataUnpacked, Program.run_bind, Program.run_pure, visible_closed]
  rcases taOpenPersistentObject_cases env s filename ⟨true, false, false⟩ .indeterminate with
    ⟨old, stored, opened, run⟩ | ⟨unopened, res, run⟩
  · have held : (s.storageCall.addObject (.persistent filename ⟨true, false, false⟩ 0)).object
        (.live s.next) = some (.persistent filename ⟨true, false, false⟩ 0) := by
      simp [Tee.addObject, Tee.storageCall]
    obtain ⟨filled, visible⟩ := taReadPersistentObject_held env _ _ buffer size count held
    have same : data = (env.storage (s.storageCalls + 1)).delivered
        ((((s.store filename).getD []).drop 0).take size) := if_pos opened
    rw [run, same]
    refine ⟨rfl, filled, ?_⟩
    exact advance_of_visible visible 1
  · have nothing : data = [] := by
      unfold data Environment.coilRead
      split
      · next opened =>
        have missing : s.store filename = none := by simpa [opened] using unopened
        rw [missing]
        simp [Outcome.delivered_nil]
      · rfl
    rw [run, taReadPersistentObject_unobtained, nothing, Buffer.fill_nil, Buffer.deliver_nil]
    exact ⟨rfl, rfl, rfl⟩

/-- The store is replaced exactly when the create succeeds; the close decides nothing. -/
theorem taOverwriteCoilWithData_run (newCoilData : List UInt8) (newCoilDataLen : Nat) :
    let r := (taOverwriteCoilWithData newCoilData newCoilDataLen).run env.handler s
    r.1 = teeSuccess ∧ r.2.visible =
      (if (env.storage s.storageCalls).result = teeSuccess then
          Function.update s.store filename (some (newCoilData.take newCoilDataLen))
        else s.store, s.memory, s.signed, s.storageCalls + 2) := by
  intro r
  simp only [r, taOverwriteCoilWithData, Program.run_bind, visible_closed]
  refine ⟨rfl, ?_⟩
  simp only [taCreatePersistentObject, Program.run_bind, Program.run_perform, Program.run_pure,
    Environment.handler, Environment.createPersistentObject]
  split <;> rfl

end Storage

section Commands
variable (env : Environment) (seed : Seed) (s : Tee)

/-- The zeroed local array of a command once the stored bytes have been read into it. -/
def Environment.coilCopy : List UInt8 :=
  let data := env.coilRead s seed.coilData.length
  data ++ (List.replicate seed.coilData.length 0x00).drop data.length

theorem Outcome.delivered_length_le (outcome : Outcome) (data : List UInt8) :
    (outcome.delivered data).length ≤ data.length := by
  cases outcome with
  | ok => exact Nat.le_refl _
  | short count => exact List.length_take_le' _ _
  | error => exact Nat.zero_le _

theorem coilRead_length_le (size : Nat) : (env.coilRead s size).length ≤ size := by
  unfold Environment.coilRead
  split
  · exact (Outcome.delivered_length_le _ _).trans (List.length_take_le _ _)
  · exact Nat.zero_le _

theorem coilCopy_length : (env.coilCopy seed s).length = seed.coilData.length := by
  have short := coilRead_length_le env s seed.coilData.length
  rw [Environment.coilCopy, List.length_append, List.length_drop, List.length_replicate]
  omega

theorem coilCopy_run (count : UInt32) :
    let r := (taGetAllCoilDataUnpacked (.stack (List.replicate seed.coilData.length 0x00))
      seed.coilData.length count).run env.handler s
    r.1.2.1.bytes = env.coilCopy seed s ∧ r.2.visible = (s.advance 3).visible := by
  obtain ⟨_, filled, visible⟩ := taGetAllCoilDataUnpacked_run env s
    (.stack (List.replicate seed.coilData.length 0x00)) seed.coilData.length count
  exact ⟨congrArg Buffer.bytes filled, visible⟩

theorem coilCopy_congr {s t : Tee} (same : t.visible = s.visible) :
    env.coilCopy seed t = env.coilCopy seed s := by
  obtain ⟨store, _, _, calls⟩ := visible_ext same
  simp only [Environment.coilCopy, Environment.coilRead, store, calls]

/-- What a read reports for an address. -/
def Environment.coilValue (coilAddress : UInt32) : UInt8 :=
  taGetCoilValue (taGetBitNumberForCoil coilAddress.toInt32) (env.coilCopy seed s)

theorem taSeedCoil_run :
    let r := (taSeedCoil seed).run env.handler s
    r.1 = teeSuccess ∧ r.2.visible =
      (if (env.storage s.storageCalls).result = teeSuccess then
          Function.update s.store filename (some seed.coilData)
        else s.store, s.memory, s.signed, s.storageCalls + 2) := by
  simpa [taSeedCoil] using taOverwriteCoilWithData_run env s seed.coilData seed.coilData.length

theorem taGetDataByCoilAddress_run (params : TeeParams) :
    let r := (taGetDataByCoilAddress seed params).run env.handler s
    let value := env.coilValue seed s params.p0.b
    r.1.1 = teeSuccess ∧ ∃ len,
      r.1.2 = { params with
        p1 := { params.p1 with b := len }, p2 := { params.p2 with a := value.toUInt32 } } ∧
      SigningResult env (s.advance 3)
        [value, (params.p0.a >>> 8).toUInt8, (params.p0.a &&& 0x00ff).toUInt8] params.p1.buffer
        r.2 len := by
  intro r value
  obtain ⟨copied, visible⟩ := coilCopy_run env seed s 0
  have folded : taGetCoilValue (taGetBitNumberForCoil params.p0.b.toInt32) (env.coilCopy seed s) =
      value := rfl
  simp only [r, taGetDataByCoilAddress, Program.run_bind, Program.run_pure, copied, folded]
  clear_value value
  generalize (taGetAllCoilDataUnpacked _ _ _).run env.handler s = read at visible
  obtain ⟨done, result⟩ := taSign_result env read.2
    (.stack [value, (params.p0.a >>> 8).toUInt8, (params.p0.a &&& 0x00ff).toUInt8]) 3
    params.p1.buffer params.p1.size
  exact ⟨done, _, rfl, result.congr visible⟩

/-- The bytes an accepted set hands to the overwrite. -/
def Environment.coilUpdate (coilAddress value : UInt32) : List UInt8 :=
  (taUpdateCoilData (taGetBitNumberForCoil coilAddress.toInt32) value.toUInt8
    (env.coilCopy seed s)).take seed.coilData.length

/-- An accepted set of the mapped address puts the low byte of `value.b` in bit 0. -/
theorem coilUpdate_mapped (coilAddress value : UInt32)
    (mapped : coilAddress.toInt32 = coilAddressInverterStatus) :
    env.coilUpdate seed s coilAddress value =
      PackedBits.set (env.coilCopy seed s) 0 (value.toUInt8 ≠ 0) := by
  rw [Environment.coilUpdate, taUpdateCoilData_address, if_pos mapped]
  refine List.take_of_length_le (Nat.le_of_eq ?_)
  rw [PackedBits.set_length, coilCopy_length env seed s]

/-- A set either refuses and touches nothing, or accepts; then the verdict is 1
whatever the five storage calls that follow do. -/
theorem taSetDataByCoilAddress_run (params : TeeParams) :
    let r := (taSetDataByCoilAddress seed params).run env.handler s
    let data := s.view (.shared params.p1.buffer) params.p1.size.toNat
    let signature := s.view (.shared params.p2.buffer) params.p2.size.toNat
    r.1.1 = teeSuccess ∧
      ((r.1.2 = { params with p3 := { params.p3 with a := (1 : Int32).toUInt32 } } ∧
        env.crypto.valid data signature = true ∧
        r.2.visible =
          (if (env.storage (s.storageCalls + 3)).result = teeSuccess then
              Function.update s.store filename (some (env.coilUpdate seed s params.p0.a params.p0.b))
            else s.store, s.memory, s.signed, s.storageCalls + 5)) ∨
      (r.1.2 = { params with p3 := { params.p3 with a := (-1 : Int32).toUInt32 } } ∧
        ¬ (env.CryptoSucceeds ∧ env.crypto.valid data signature = true) ∧
        r.2.visible = s.visible)) := by
  intro r data signature
  obtain ⟨done, verified⟩ := taVerify_verified env s (.shared params.p1.buffer) params.p1.size.toNat
    params.p2.buffer params.p2.size 0
  simp only [r, taSetDataByCoilAddress, Program.run_bind]
  generalize (taVerify _ _ _ _ _).run env.handler s = checked at done verified
  obtain ⟨⟨res, verdict⟩, t⟩ := checked
  simp only at done verified
  obtain ⟨store, memory, signed, calls⟩ := visible_ext verified.visible
  rcases verified.decided with accepted | refused
  · have accepts : verdict ≠ -1 := accepted.trans_ne refusal_apart.symm
    obtain ⟨copied, visible⟩ := coilCopy_run env seed t 0
    rw [coilCopy_congr env seed verified.visible] at copied
    simp only [if_neg accepts, Program.run_bind, Program.run_pure, copied]
    generalize (taGetAllCoilDataUnpacked _ _ _).run env.handler t = read at visible
    obtain ⟨written, update⟩ := taOverwriteCoilWithData_run env read.2
      (taUpdateCoilData (taGetBitNumberForCoil params.p0.a.toInt32) params.p0.b.toUInt8
        (env.coilCopy seed s)) seed.coilData.length
    obtain ⟨readStore, readMemory, readSigned, readCalls⟩ := visible_ext visible
    refine ⟨written, .inl ⟨by rw [accepted], verified.sound accepted, ?_⟩⟩
    rw [update, readStore, readMemory, readSigned, readCalls]
    simp only [Tee.advance, store, memory, signed, calls, Environment.coilUpdate]
  · simp only [refused, ↓reduceIte, Program.run_pure]
    refine ⟨done, .inr ⟨trivial, fun ⟨all, valid⟩ => ?_, verified.visible⟩⟩
    exact refusal_apart (refused.symm.trans (verified.complete all valid))

theorem taVerifyCoilDAta_run (params : TeeParams) :
    let r := (taVerifyCoilDAta params).run env.handler s
    r.1.1 = teeSuccess ∧ ∃ verdict,
      r.1.2 = { params with p2 := { params.p2 with a := verdict.toUInt32 } } ∧
      Verified env s r.2 verdict (s.view (.shared params.p0.buffer) params.p0.size.toNat)
        (s.view (.shared params.p1.buffer) params.p1.size.toNat) := by
  obtain ⟨done, verified⟩ := taVerify_verified env s (.shared params.p0.buffer)
    params.p0.size.toNat params.p1.buffer params.p1.size params.p2.a.toInt32
  simp only [taVerifyCoilDAta, Program.run_bind, Program.run_pure]
  exact ⟨done, _, rfl, verified⟩

theorem taSignCoilData_run (params : TeeParams) :
    let r := (taSignCoilData params).run env.handler s
    r.1.1 = teeSuccess ∧ ∃ len,
      r.1.2 = { params with p1 := { params.p1 with b := len } } ∧
      SigningResult env s (s.view (.shared params.p0.buffer) params.p0.size.toNat)
        params.p1.buffer r.2 len := by
  obtain ⟨done, result⟩ := taSign_result env s (.shared params.p0.buffer) params.p0.size.toNat
    params.p1.buffer params.p1.size
  simp only [taSignCoilData, Program.run_bind, Program.run_pure]
  exact ⟨done, _, rfl, result⟩

theorem taGetAllCoilData_run (params : TeeParams) :
    let r := (taGetAllCoilData params).run env.handler s
    r.1.1 = teeSuccess ∧ r.2.visible =
      (s.store, Function.update s.memory params.p0.buffer ((s.memory params.p0.buffer).overlay 0
        (env.coilRead s params.p0.size.toNat)), s.signed, s.storageCalls + 3) := by
  obtain ⟨done, _, visible⟩ := taGetAllCoilDataUnpacked_run env s (.shared params.p0.buffer)
    params.p0.size.toNat params.p1.a
  simp only [taGetAllCoilData, Program.run_bind, Program.run_pure]
  exact ⟨done, visible⟩

end Commands

/-- One command of the normal world: the words of the call and what its parameter
memory holds at that moment. -/
structure Invocation where
  nCommandID : UInt32
  nParamTypes : UInt32
  pParams : TeeParams
  memory : UInt32 → ByteMemory

section EntryPoint
variable (env : Environment) (seed : Seed) (request : Invocation) (s : Tee)

/-- The state in which the command starts. -/
def Invocation.supply : Tee := { s with memory := request.memory }

def Environment.invoke : (TeeResult × TeeParams) × Tee :=
  (taInvokeCommandEntryPoint seed request.nCommandID request.nParamTypes request.pParams).run
    env.handler (request.supply s)

/-- The bytes behind a memory reference parameter. -/
def Invocation.bytes (p : TeeParam) : List UInt8 := (request.memory p.buffer).slice 0 p.size.toNat

/-- Everything an invocation can do. A set has the two outcomes of its verification;
storage failures show in the store only, signing failures in the length only. -/
inductive Effect : TeeResult → TeeParams → Tee → Prop where
  | seedCoil {t : Tee} (command : request.nCommandID = CommandId.seedCoil)
      (visible : t.visible =
        (if (env.storage s.storageCalls).result = teeSuccess then
            Function.update s.store filename (some seed.coilData)
          else s.store, request.memory, s.signed, s.storageCalls + 2)) :
      Effect teeSuccess request.pParams t
  | getAllCoilData {t : Tee} {params : TeeParams}
      (command : request.nCommandID = CommandId.getAllCoilData)
      (store : t.store = s.store) (signed : t.signed = s.signed) :
      Effect teeSuccess params t
  | getDataByCoilAddress {t : Tee} (len : UInt32)
      (command : request.nCommandID = CommandId.getDataByCoilAddress)
      (result : SigningResult env ((request.supply s).advance 3)
        [env.coilValue seed s request.pParams.p0.b, (request.pParams.p0.a >>> 8).toUInt8,
          (request.pParams.p0.a &&& 0x00ff).toUInt8] request.pParams.p1.buffer t len) :
      Effect teeSuccess
        { request.pParams with
          p1 := { request.pParams.p1 with b := len }
          p2 := { request.pParams.p2 with
            a := (env.coilValue seed s request.pParams.p0.b).toUInt32 } } t
  | setAccepted {t : Tee} (command : request.nCommandID = CommandId.setDataByCoilAddress)
      (valid : env.crypto.valid (request.bytes request.pParams.p1)
        (request.bytes request.pParams.p2) = true)
      (visible : t.visible =
        (if (env.storage (s.storageCalls + 3)).result = teeSuccess then
            Function.update s.store filename
              (some (env.coilUpdate seed s request.pParams.p0.a request.pParams.p0.b))
          else s.store, request.memory, s.signed, s.storageCalls + 5)) :
      Effect teeSuccess
        { request.pParams with p3 := { request.pParams.p3 with a := (1 : Int32).toUInt32 } } t
  | setRejected {t : Tee} (command : request.nCommandID = CommandId.setDataByCoilAddress)
      (unverified : ¬ (env.CryptoSucceeds ∧ env.crypto.valid (request.bytes request.pParams.p1)
        (request.bytes request.pParams.p2) = true))
      (visible : t.visible = (request.supply s).visible) :
      Effect teeSuccess
        { request.pParams with p3 := { request.pParams.p3 with a := (-1 : Int32).toUInt32 } } t
  | verifyCoilData {t : Tee} (verdict : Int32)
      (command : request.nCommandID = CommandId.verifyCoilData)
      (verified : Verified env (request.supply s) t verdict (request.bytes request.pParams.p0)
        (request.bytes request.pParams.p1)) :
      Effect teeSuccess
        { request.pParams with p2 := { request.pParams.p2 with a := verdict.toUInt32 } } t
  | signCoilData {t : Tee} (len : UInt32) (command : request.nCommandID = CommandId.signCoilData)
      (result : SigningResult env (request.supply s) (request.bytes request.pParams.p0)
        request.pParams.p1.buffer t len) :
      Effect teeSuccess
        { request.pParams with p1 := { request.pParams.p1 with b := len } } t
  | unknown (command : request.nCommandID ∉ [CommandId.seedCoil, CommandId.getAllCoilData,
        CommandId.getDataByCoilAddress, CommandId.setDataByCoilAddress, CommandId.verifyCoilData,
        CommandId.signCoilData]) :
      Effect teeErrorBadParameters request.pParams (request.supply s)

/-- The inversion lemma of the application: one command, one effect. -/
theorem invoke_effect :
    Effect env seed request s (env.invoke seed request s).1.1 (env.invoke seed request s).1.2
      (env.invoke seed request s).2 := by
  unfold Environment.invoke taInvokeCommandEntryPoint
  by_cases seeding : request.nCommandID = CommandId.seedCoil
  · obtain ⟨done, visible⟩ := taSeedCoil_run env seed (request.supply s)
    simp only [if_pos seeding, Program.run_bind, Program.run_pure, done]
    exact .seedCoil seeding visible
  by_cases gettingAll : request.nCommandID = CommandId.getAllCoilData
  · obtain ⟨done, visible⟩ := taGetAllCoilData_run env (request.supply s) request.pParams
    rw [if_neg seeding, if_pos gettingAll, done]
    rw [Tee.visible, Prod.mk.injEq, Prod.mk.injEq, Prod.mk.injEq] at visible
    exact .getAllCoilData gettingAll visible.1 visible.2.2.1
  by_cases getting : request.nCommandID = CommandId.getDataByCoilAddress
  · obtain ⟨done, len, params, result⟩ :=
      taGetDataByCoilAddress_run env seed (request.supply s) request.pParams
    rw [if_neg seeding, if_neg gettingAll, if_pos getting, done, params]
    exact .getDataByCoilAddress len getting result
  by_cases setting : request.nCommandID = CommandId.setDataByCoilAddress
  · obtain ⟨done, outcome⟩ := taSetDataByCoilAddress_run env seed (request.supply s) request.pParams
    rw [if_neg seeding, if_neg gettingAll, if_neg getting, if_pos setting, done]
    rcases outcome with ⟨params, valid, visible⟩ | ⟨params, unverified, visible⟩
    · rw [params]
      exact .setAccepted setting valid visible
    · rw [params]
      exact .setRejected setting unverified visible
  by_cases verifying : request.nCommandID = CommandId.verifyCoilData
  · obtain ⟨done, verdict, params, verified⟩ :=
      taVerifyCoilDAta_run env (request.supply s) request.pParams
    rw [if_neg seeding, if_neg gettingAll, if_neg getting, if_neg setting, if_pos verifying, done,
      params]
    exact .verifyCoilData verdict verifying verified
  by_cases signing : request.nCommandID = CommandId.signCoilData
  · obtain ⟨done, len, params, result⟩ := taSignCoilData_run env (request.supply s) request.pParams
    rw [if_neg seeding, if_neg gettingAll, if_neg getting, if_neg setting, if_neg verifying,
      if_pos signing, done, params]
    exact .signCoilData len signing result
  rw [if_neg seeding, if_neg gettingAll, if_neg getting, if_neg setting, if_neg verifying,
    if_neg signing]
  refine .unknown ?_
  simp only [List.mem_cons, List.not_mem_nil, or_false, not_or]
  exact ⟨seeding, gettingAll, getting, setting, verifying, signing⟩

-- From here on an invocation is known by its effect alone.
attribute [irreducible] Environment.invoke

/-- A set whose published verdict is 1. -/
def Accepted (event : Invocation × (TeeResult × TeeParams)) : Prop :=
  event.1.nCommandID = CommandId.setDataByCoilAddress ∧ event.2.2.p3.a = 1

instance (event : Invocation × (TeeResult × TeeParams)) : Decidable (Accepted event) :=
  inferInstanceAs (Decidable (_ ∧ _))

variable {env seed request s} {res : TeeResult} {params : TeeParams} {t : Tee}

theorem command_apart {id other : UInt32} (command : request.nCommandID = id)
    (same : request.nCommandID = other) (apart : id ≠ other) : False :=
  apart (command.symm.trans same)

/-- The store moves in a seed and in an accepted set only. -/
theorem Effect.store (effect : Effect env seed request s res params t) :
    (request.nCommandID = CommandId.seedCoil ∧
      t.store = if (env.storage s.storageCalls).result = teeSuccess then
          Function.update s.store filename (some seed.coilData)
        else s.store) ∨
    (Accepted (request, (res, params)) ∧
      env.crypto.valid (request.bytes request.pParams.p1) (request.bytes request.pParams.p2) = true ∧
      t.store = if (env.storage (s.storageCalls + 3)).result = teeSuccess then
          Function.update s.store filename
              (some (env.coilUpdate seed s request.pParams.p0.a request.pParams.p0.b))
        else s.store) ∨
    (request.nCommandID ≠ CommandId.seedCoil ∧ ¬ Accepted (request, (res, params)) ∧
      t.store = s.store) := by
  cases effect with
  | seedCoil command visible => exact .inl ⟨command, congrArg Prod.fst visible⟩
  | setAccepted command valid visible =>
    exact .inr (.inl ⟨⟨command, rfl⟩, valid, congrArg Prod.fst visible⟩)
  | setRejected command unverified visible =>
    refine .inr (.inr ⟨fun seeding => command_apart command seeding (by decide),
      fun accepted => ?_, congrArg Prod.fst visible⟩)
    have published : (-1 : Int32).toUInt32 = 1 := accepted.2
    exact absurd published (by decide)
  | getAllCoilData command store =>
    exact .inr (.inr ⟨fun seeding => command_apart command seeding (by decide),
      fun accepted => command_apart command accepted.1 (by decide), store⟩)
  | getDataByCoilAddress len command result =>
    exact .inr (.inr ⟨fun seeding => command_apart command seeding (by decide),
      fun accepted => command_apart command accepted.1 (by decide), result.store⟩)
  | verifyCoilData verdict command verified =>
    exact .inr (.inr ⟨fun seeding => command_apart command seeding (by decide),
      fun accepted => command_apart command accepted.1 (by decide), congrArg Prod.fst verified.visible⟩)
  | signCoilData len command result =>
    exact .inr (.inr ⟨fun seeding => command_apart command seeding (by decide),
      fun accepted => command_apart command accepted.1 (by decide), result.store⟩)
  | unknown command =>
    simp only [List.mem_cons, List.not_mem_nil, or_false, not_or] at command
    exact .inr (.inr ⟨command.1, fun accepted => command.2.2.2.1 accepted.1, rfl⟩)

theorem Effect.seedStore (effect : Effect env seed request s res params t)
    (command : request.nCommandID = CommandId.seedCoil) :
    t.store = (if (env.storage s.storageCalls).result = teeSuccess then
        Function.update s.store filename (some seed.coilData)
      else s.store) ∧ t.signed = s.signed := by
  cases effect with
  | seedCoil _ visible => exact ⟨congrArg Prod.fst visible, congrArg (·.2.2.1) visible⟩
  | getAllCoilData other | getDataByCoilAddress _ other | setAccepted other | setRejected other
  | verifyCoilData _ other | signCoilData _ other =>
    exact (command_apart other command (by decide)).elim
  | unknown other => exact absurd command (by simp_all)

theorem Effect.getAllData (effect : Effect env seed request s res params t)
    (command : request.nCommandID = CommandId.getAllCoilData) :
    t.store = s.store ∧ t.signed = s.signed := by
  cases effect with
  | getAllCoilData _ store signed => exact ⟨store, signed⟩
  | seedCoil other | getDataByCoilAddress _ other | setAccepted other | setRejected other
  | verifyCoilData _ other | signCoilData _ other =>
    exact (command_apart other command (by decide)).elim
  | unknown other => exact absurd command (by simp_all)

theorem Effect.getData (effect : Effect env seed request s res params t)
    (command : request.nCommandID = CommandId.getDataByCoilAddress) :
    let value := env.coilValue seed s request.pParams.p0.b
    params.p2.a = value.toUInt32 ∧
      SigningResult env ((request.supply s).advance 3)
        [value, (request.pParams.p0.a >>> 8).toUInt8, (request.pParams.p0.a &&& 0x00ff).toUInt8]
        request.pParams.p1.buffer t params.p1.b := by
  cases effect with
  | getDataByCoilAddress len _ result => exact ⟨rfl, result⟩
  | seedCoil other | getAllCoilData other | setAccepted other | setRejected other
  | verifyCoilData _ other | signCoilData _ other =>
    exact (command_apart other command (by decide)).elim
  | unknown other => exact absurd command (by simp_all)

theorem Effect.setData (effect : Effect env seed request s res params t)
    (command : request.nCommandID = CommandId.setDataByCoilAddress) :
    res = teeSuccess ∧ t.signed = s.signed ∧
      ((params.p3.a = 1 ∧
        env.crypto.valid (request.bytes request.pParams.p1)
          (request.bytes request.pParams.p2) = true ∧
        t.store = if (env.storage (s.storageCalls + 3)).result = teeSuccess then
            Function.update s.store filename
              (some (env.coilUpdate seed s request.pParams.p0.a request.pParams.p0.b))
          else s.store) ∨
      (params.p3.a = (-1 : Int32).toUInt32 ∧
        ¬ (env.CryptoSucceeds ∧ env.crypto.valid (request.bytes request.pParams.p1)
          (request.bytes request.pParams.p2) = true) ∧
        t.store = s.store)) := by
  cases effect with
  | setAccepted _ valid visible =>
    exact ⟨rfl, congrArg (·.2.2.1) visible, .inl ⟨rfl, valid, congrArg Prod.fst visible⟩⟩
  | setRejected _ unverified visible =>
    exact ⟨rfl, congrArg (·.2.2.1) visible, .inr ⟨rfl, unverified, congrArg Prod.fst visible⟩⟩
  | seedCoil other | getAllCoilData other | getDataByCoilAddress _ other
  | verifyCoilData _ other | signCoilData _ other =>
    exact (command_apart other command (by decide)).elim
  | unknown other => exact absurd command (by simp_all)

theorem Effect.setAccepts (effect : Effect env seed request s res params t)
    (command : request.nCommandID = CommandId.setDataByCoilAddress) (succeeds : env.CryptoSucceeds)
    (valid : env.crypto.valid (request.bytes request.pParams.p1)
      (request.bytes request.pParams.p2) = true) :
    res = teeSuccess ∧ params.p3.a = 1 ∧
      t.store = if (env.storage (s.storageCalls + 3)).result = teeSuccess then
          Function.update s.store filename
              (some (env.coilUpdate seed s request.pParams.p0.a request.pParams.p0.b))
        else s.store := by
  obtain ⟨done, _, ⟨verdict, _, store⟩ | ⟨_, unverified, _⟩⟩ := effect.setData command
  · exact ⟨done, verdict, store⟩
  · exact absurd ⟨succeeds, valid⟩ unverified

theorem Effect.verifyData (effect : Effect env seed request s res params t)
    (command : request.nCommandID = CommandId.verifyCoilData) :
    ∃ verdict : Int32, params.p2.a = verdict.toUInt32 ∧
      params.p1 = request.pParams.p1 ∧
      Verified env (request.supply s) t verdict (request.bytes request.pParams.p0)
        (request.bytes request.pParams.p1) := by
  cases effect with
  | verifyCoilData verdict _ verified => exact ⟨verdict, rfl, rfl, verified⟩
  | seedCoil other | getAllCoilData other | getDataByCoilAddress _ other | setAccepted other
  | setRejected other | signCoilData _ other =>
    exact (command_apart other command (by decide)).elim
  | unknown other => exact absurd command (by simp_all)

theorem Effect.signData (effect : Effect env seed request s res params t)
    (command : request.nCommandID = CommandId.signCoilData) :
    SigningResult env (request.supply s) (request.bytes request.pParams.p0)
      request.pParams.p1.buffer t params.p1.b := by
  cases effect with
  | signCoilData len _ result => exact result
  | seedCoil other | getAllCoilData other | getDataByCoilAddress _ other | setAccepted other
  | setRejected other | verifyCoilData _ other =>
    exact (command_apart other command (by decide)).elim
  | unknown other => exact absurd command (by simp_all)

end EntryPoint

/-- A command without parameters. -/
def Invocation.plain (nCommandID : UInt32) : Invocation :=
  ⟨nCommandID, 0, ⟨⟨0, 0⟩, ⟨0, 0⟩, ⟨0, 0⟩, ⟨0, 0⟩⟩, fun _ _ => 0⟩

/-- A read of an address under an id. -/
def Invocation.getCoil (transactionId coilAddress : UInt32) : Invocation where
  nCommandID := CommandId.getDataByCoilAddress
  nParamTypes := 0
  pParams := { p0 := ⟨transactionId, coilAddress⟩, p1 := ⟨2, 512⟩, p2 := ⟨0, 0⟩, p3 := ⟨0, 0⟩ }
  memory _ := fun _ => 0

theorem getCoil_command (transactionId coilAddress : UInt32) :
    (Invocation.getCoil transactionId coilAddress).nCommandID =
      CommandId.getDataByCoilAddress := rfl

/-- A set whose data and signature lie behind two pointers of their own. -/
def Invocation.setCoil (data signature : List UInt8) (coilAddress value : UInt32) : Invocation where
  nCommandID := CommandId.setDataByCoilAddress
  nParamTypes := 0
  pParams := {
    p0 := ⟨coilAddress, value⟩
    p1 := ⟨1, UInt32.ofNat data.length⟩
    p2 := ⟨2, UInt32.ofNat signature.length⟩
    p3 := ⟨0, 0⟩ }
  memory pointer := ByteMemory.ofBytes (if pointer = 1 then data else signature)

section SetCoil
variable (data signature : List UInt8) (coilAddress value : UInt32)

theorem setCoil_command : (Invocation.setCoil data signature coilAddress value).nCommandID =
    CommandId.setDataByCoilAddress := rfl

theorem setCoil_data (fits : data.length < 2 ^ 32) :
    (Invocation.setCoil data signature coilAddress value).bytes
      (Invocation.setCoil data signature coilAddress value).pParams.p1 = data := by
  simp only [Invocation.bytes, Invocation.setCoil, TeeParam.buffer, TeeParam.size, ↓reduceIte,
    UInt32.toNat_ofNat_of_lt' fits, ByteMemory.slice_ofBytes]

theorem setCoil_signature (fits : signature.length < 2 ^ 32) :
    (Invocation.setCoil data signature coilAddress value).bytes
      (Invocation.setCoil data signature coilAddress value).pParams.p2 = signature := by
  have apart : (2 : UInt32) ≠ 1 := by decide
  simp only [Invocation.bytes, Invocation.setCoil, TeeParam.buffer, TeeParam.size, apart,
    ↓reduceIte, UInt32.toNat_ofNat_of_lt' fits, ByteMemory.slice_ofBytes]

theorem setCoil_valid (env : Environment) (scheme : env.crypto = .reference)
    (whole : data.length = 3) (own : signature = Crypto.reference.signature data) :
    env.crypto.valid
      ((Invocation.setCoil data signature coilAddress value).bytes
        (Invocation.setCoil data signature coilAddress value).pParams.p1)
      ((Invocation.setCoil data signature coilAddress value).bytes
        (Invocation.setCoil data signature coilAddress value).pParams.p2) = true := by
  have length : signature.length = 128 := by rw [own, Crypto.signature_length]
  rw [setCoil_data _ _ _ _ (by omega), setCoil_signature _ _ _ _ (by omega), scheme]
  exact (reference_valid _ _).mpr ⟨whole, own⟩

end SetCoil

/-- A valid set of the mapped coil to 1 under the reference scheme. -/
def Invocation.setOne : Invocation :=
  .setCoil [1, 0, 1] (Crypto.reference.signature [1, 0, 1]) 0x13 1

theorem setOne_valid (env : Environment) (scheme : env.crypto = .reference) :
    env.crypto.valid (Invocation.setOne.bytes Invocation.setOne.pParams.p1)
      (Invocation.setOne.bytes Invocation.setOne.pParams.p2) = true :=
  setCoil_valid _ _ _ _ env scheme rfl rfl

theorem setOne_command : Invocation.setOne.nCommandID = CommandId.setDataByCoilAddress := rfl

theorem setOne_mapped : Invocation.setOne.pParams.p0.a.toInt32 = coilAddressInverterStatus := rfl

end InvCtrl
