import InvCtrl.Concurrency

/-! What can be observed of the application. Between commands nothing of an instance
counts but the coil object and how many calls the TEE has answered: handle tables, key
objects left behind, parameter memory, the other objects and the digest state decide no
answer. Every command under every pattern of failures is one equation over this much. -/
namespace InvCtrl
open Interaction Execution

/-- All that one command hands on to the next. -/
@[ext] structure Footprint where
  stored : Option (List UInt8)
  storageCalls : Nat
  cryptoCalls : Nat

def Tee.footprint (s : Tee) : Footprint := ⟨s.store filename, s.storageCalls, s.cryptoCalls⟩

section Specification
variable (env : Environment) (seed : Seed)

/-- The storage call of this number succeeds. -/
def Environment.Stores (call : Nat) : Prop := (env.storage call).result = teeSuccess

instance (call : Nat) : Decidable (env.Stores call) := inferInstanceAs (Decidable (_ = _))

/-- What a signing emits: the signature, or 512 zeros when a call it needs fails. -/
def Environment.emitted (call : Nat) (message : List UInt8) : List UInt8 :=
  if env.SignWorks call then env.crypto.signature message else List.replicate 512 0

/-- The verdict of a verification. -/
def Environment.verdict (call : Nat) (message signature : List UInt8) : Int32 :=
  if env.VerifyWorks call ∧ env.crypto.valid message signature = true then 1 else -1

namespace Footprint

/-- The bytes that opening and reading the coil object deliver. -/
def read (f : Footprint) (size : Nat) : List UInt8 :=
  if env.Stores f.storageCalls then
    (env.storage (f.storageCalls + 1)).delivered ((f.stored.getD []).take size)
  else []

/-- The count that the read reports: none without an object and two calls that succeed. -/
def count (f : Footprint) (size : Nat) (old : UInt32) : UInt32 :=
  if f.stored.isSome ∧ env.Stores f.storageCalls ∧ env.Stores (f.storageCalls + 1) then
    UInt32.ofNat (f.read env size).length
  else old

/-- The zeroed array of a command with the bytes that were read at its front. -/
def copy (f : Footprint) : List UInt8 :=
  let data := f.read env seed.coilData.length
  data ++ (List.replicate seed.coilData.length 0x00).drop data.length

/-- The object after a create that is the storage call of this number. -/
def overwrite (f : Footprint) (call : Nat) (data : List UInt8) : Option (List UInt8) :=
  if env.Stores call then some data else f.stored

end Footprint

/-- A memory of the normal world with an emitted signature behind a pointer. -/
def delivered (memory : UInt32 → ByteMemory) (pointer : UInt32) (data : List UInt8) :
    UInt32 → ByteMemory :=
  Function.update memory pointer ((memory pointer).overlay 0 data)

namespace Footprint
variable (f : Footprint) (request : Invocation)

def seedCoil : Answer × Footprint :=
  (((teeSuccess, request.pParams), request.memory),
    { f with
      stored := f.overwrite env f.storageCalls seed.coilData
      storageCalls := f.storageCalls + 2 })

def getAllCoilData : Answer × Footprint :=
  let params := request.pParams
  let size := params.p0.size.toNat
  (((teeSuccess, { params with p1 := { params.p1 with a := f.count env size params.p1.a } }),
    delivered request.memory params.p0.buffer (f.read env size)),
    { f with storageCalls := f.storageCalls + 3 })

def getDataByCoilAddress : Answer × Footprint :=
  let params := request.pParams
  let value := taGetCoilValue (taGetBitNumberForCoil params.p0.b.toInt32) (f.copy env seed)
  let out := env.emitted f.cryptoCalls
    [value, (params.p0.a >>> 8).toUInt8, (params.p0.a &&& 0x00ff).toUInt8]
  (((teeSuccess, { params with
      p1 := { params.p1 with b := UInt32.ofNat out.length }
      p2 := { params.p2 with a := value.toUInt32 } }),
    delivered request.memory params.p1.buffer out),
    { f with storageCalls := f.storageCalls + 3, cryptoCalls := f.cryptoCalls + 9 })

def setDataByCoilAddress : Answer × Footprint :=
  let params := request.pParams
  let verdict := env.verdict f.cryptoCalls (request.bytes params.p1) (request.bytes params.p2)
  let updated := taUpdateCoilData (taGetBitNumberForCoil params.p0.a.toInt32)
    params.p0.b.toUInt8 (f.copy env seed)
  (((teeSuccess, { params with p3 := { params.p3 with a := verdict.toUInt32 } }), request.memory),
    { stored := if verdict = -1 then f.stored
        else f.overwrite env (f.storageCalls + 3) (updated.take seed.coilData.length)
      storageCalls := if verdict = -1 then f.storageCalls else f.storageCalls + 5
      cryptoCalls := f.cryptoCalls + 9 })

def verifyCoilData : Answer × Footprint :=
  let params := request.pParams
  let verdict := env.verdict f.cryptoCalls (request.bytes params.p0) (request.bytes params.p1)
  (((teeSuccess, { params with p2 := { params.p2 with a := verdict.toUInt32 } }), request.memory),
    { f with cryptoCalls := f.cryptoCalls + 9 })

def signCoilData : Answer × Footprint :=
  let params := request.pParams
  let out := env.emitted f.cryptoCalls (request.bytes params.p0)
  (((teeSuccess, { params with p1 := { params.p1 with b := UInt32.ofNat out.length } }),
    delivered request.memory params.p1.buffer out), { f with cryptoCalls := f.cryptoCalls + 9 })

/-- The application as a function of the footprint and the request. -/
def react : Answer × Footprint :=
  if request.nCommandID = CommandId.seedCoil then f.seedCoil env seed request
  else if request.nCommandID = CommandId.getAllCoilData then f.getAllCoilData env request
  else if request.nCommandID = CommandId.getDataByCoilAddress then
    f.getDataByCoilAddress env seed request
  else if request.nCommandID = CommandId.setDataByCoilAddress then
    f.setDataByCoilAddress env seed request
  else if request.nCommandID = CommandId.verifyCoilData then f.verifyCoilData env request
  else if request.nCommandID = CommandId.signCoilData then f.signCoilData env request
  else (((teeErrorBadParameters, request.pParams), request.memory), f)

variable {request}

theorem react_seed (command : request.nCommandID = CommandId.seedCoil) :
    f.react env seed request = f.seedCoil env seed request := by
  rw [react, if_pos command]

theorem react_getAll (command : request.nCommandID = CommandId.getAllCoilData) :
    f.react env seed request = f.getAllCoilData env request := by
  simp [react, command, CommandId.seedCoil, CommandId.getAllCoilData]

theorem react_get (command : request.nCommandID = CommandId.getDataByCoilAddress) :
    f.react env seed request = f.getDataByCoilAddress env seed request := by
  simp [react, command, CommandId.seedCoil, CommandId.getAllCoilData,
    CommandId.getDataByCoilAddress]

theorem react_set (command : request.nCommandID = CommandId.setDataByCoilAddress) :
    f.react env seed request = f.setDataByCoilAddress env seed request := by
  simp [react, command, CommandId.seedCoil, CommandId.getAllCoilData,
    CommandId.getDataByCoilAddress, CommandId.setDataByCoilAddress]

theorem react_verify (command : request.nCommandID = CommandId.verifyCoilData) :
    f.react env seed request = f.verifyCoilData env request := by
  simp [react, command, CommandId.seedCoil, CommandId.getAllCoilData,
    CommandId.getDataByCoilAddress, CommandId.setDataByCoilAddress, CommandId.verifyCoilData]

theorem react_sign (command : request.nCommandID = CommandId.signCoilData) :
    f.react env seed request = f.signCoilData env request := by
  simp [react, command, CommandId.seedCoil, CommandId.getAllCoilData,
    CommandId.getDataByCoilAddress, CommandId.setDataByCoilAddress, CommandId.verifyCoilData,
    CommandId.signCoilData]

theorem react_unknown (command : request.nCommandID ∉ CommandId.all) :
    f.react env seed request = (((teeErrorBadParameters, request.pParams), request.memory), f) := by
  simp only [CommandId.all, List.mem_cons, List.not_mem_nil, or_false, not_or] at command
  simp [react, command]

end Footprint

end Specification

section Counts
variable (env : Environment) (s : Tee)

theorem calls_of_uses {α : Type} {p : TeeProgram α} (free : p.Uses fun call => call.cost = 0) :
    (p.run env.handler s).2.cryptoCalls = s.cryptoCalls :=
  Program.run_frame env.handler Tee.cryptoCalls
    (fun call t none => by rw [handler_cryptoCalls, none, Nat.add_zero]) free s

theorem taOverwriteCoilWithData_calls (newCoilData : List UInt8) (newCoilDataLen : Nat) :
    ((taOverwriteCoilWithData newCoilData newCoilDataLen).run env.handler s).2.cryptoCalls =
      s.cryptoCalls :=
  calls_of_uses env s ⟨rfl, fun _ => ⟨rfl, fun _ => trivial⟩⟩

theorem taCopySignature_calls (signaturePtr : UInt32) (loop : Nat) (out : List UInt8) :
    ((taCopySignature signaturePtr loop out).run env.handler s).2.cryptoCalls = s.cryptoCalls := by
  rw [taCopySignature_run]
  rfl

theorem taDigestAndKeys_calls (dataToSign : Buffer) (dataLen : Nat) :
    ((taDigestAndKeys dataToSign dataLen).run env.handler s).2.cryptoCalls = s.cryptoCalls + 6 := by
  simp [taDigestAndKeys, taAllocateOperation, taDigestDoFinal_calls, createKey_calls,
    handler_cryptoCalls, TeeCall.cost]

theorem taSign_calls (dataToSign : Buffer) (dataLen : Nat) (signaturePtr signatureLen : UInt32) :
    ((taSign dataToSign dataLen signaturePtr signatureLen).run env.handler s).2.cryptoCalls =
      s.cryptoCalls + 9 := by
  simp only [taSign, taSignAndVerify, taSignCase_eq, taFreeOperation, taAsymmetricSignDigest,
    Program.run_bind, Program.run_pure, Program.run_perform, handler_cryptoCalls, TeeCall.cost,
    taCopySignature_calls, armOperation_calls, taDigestAndKeys_calls]

theorem taVerify_calls (dataToSign : Buffer) (dataLen : Nat) (signaturePtr signatureLen : UInt32)
    (signatureVerified : Int32) :
    ((taVerify dataToSign dataLen signaturePtr signatureLen signatureVerified).run
      env.handler s).2.cryptoCalls = s.cryptoCalls + 9 := by
  simp [taVerify, taSignAndVerify, taVerifyCase_eq, taFreeOperation, taAsymmetricVerifyDigest,
    taDigestAndKeys_calls, armOperation_calls, handler_cryptoCalls, TeeCall.cost]

theorem taSetDataByCoilAddress_calls (seed : Seed) (params : TeeParams) :
    ((taSetDataByCoilAddress seed params).run env.handler s).2.cryptoCalls = s.cryptoCalls + 9 := by
  have verified := taVerify_calls env s (.shared params.p1.buffer) params.p1.size.toNat
    params.p2.buffer params.p2.size 0
  simp only [taSetDataByCoilAddress, Program.run_bind]
  generalize (taVerify _ _ _ _ _).run env.handler s = checked at verified
  by_cases refused : checked.1.2 = -1
  · simpa only [if_pos refused, Program.run_pure] using verified
  · simpa only [if_neg refused, Program.run_bind, Program.run_pure, taOverwriteCoilWithData_calls,
      taGetAllCoilDataUnpacked_calls] using verified

/-- What a command costs of cryptographic calls does not depend on how they end. -/
theorem invoke_cryptoCalls (seed : Seed) (request : Invocation) :
    (env.invoke seed request s).2.cryptoCalls =
      (s.footprint.react env seed request).2.cryptoCalls := by
  rw [invoke_eq]
  have dispatch := program_dispatch seed request
  generalize request.program seed = program at dispatch ⊢
  cases dispatch with
  | seedCoil seeding =>
    rw [Footprint.react_seed env seed _ seeding]
    simp only [taSeedCoil, Program.run_bind, Program.run_pure]
    exact taOverwriteCoilWithData_calls env (request.supply s) _ _
  | getAllCoilData gettingAll =>
    rw [Footprint.react_getAll env seed _ gettingAll]
    simp only [taGetAllCoilData, Program.run_bind, Program.run_pure]
    exact taGetAllCoilDataUnpacked_calls env (request.supply s) _ _ _
  | getDataByCoilAddress getting =>
    rw [Footprint.react_get env seed _ getting]
    simp only [taGetDataByCoilAddress, Program.run_bind, Program.run_pure]
    rw [taSign_calls, taGetAllCoilDataUnpacked_calls]
    rfl
  | setDataByCoilAddress setting =>
    rw [Footprint.react_set env seed _ setting]
    exact taSetDataByCoilAddress_calls env (request.supply s) seed request.pParams
  | verifyCoilData verifying =>
    rw [Footprint.react_verify env seed _ verifying]
    simp only [taVerifyCoilDAta, Program.run_bind, Program.run_pure]
    exact taVerify_calls env (request.supply s) _ _ _ _ _
  | signCoilData signing =>
    rw [Footprint.react_sign env seed _ signing]
    simp only [taSignCoilData, Program.run_bind, Program.run_pure]
    exact taSign_calls env (request.supply s) _ _ _ _
  | unknown absent =>
    rw [Footprint.react_unknown env seed _ absent]
    rfl

end Counts

section Reactions
variable (env : Environment) (seed : Seed) (s : Tee)

theorem taGetAllCoilDataUnpacked_count (buffer : Buffer) (size : Nat) (count : UInt32) :
    ((taGetAllCoilDataUnpacked buffer size count).run env.handler s).1.2.2 =
      s.footprint.count env size count := by
  by_cases opens : env.OpensCoil s
  · have opened := openPersistentObject_opened opens ⟨true, false, false⟩
    by_cases reads : env.Stores (s.storageCalls + 1)
    · have delivers : (env.storage (s.storageCalls + 1)).result = teeSuccess := reads
      have all : s.footprint.count env size count =
          UInt32.ofNat (s.footprint.read env size).length := if_pos ⟨opens.2, opens.1, reads⟩
      have data : s.footprint.read env size = (env.storage (s.storageCalls + 1)).delivered
          (((s.store filename).getD []).take size) := if_pos opens.1
      rw [all, data]
      cases buffer <;>
        simp [taGetAllCoilDataUnpacked, taOpenPersistentObject, taReadPersistentObject,
          Environment.handler, opened, Environment.readObjectData, delivers, Tee.addObject,
          Tee.storageCall]
    · have fails : (env.storage (s.storageCalls + 1)).result ≠ teeSuccess := reads
      have none : s.footprint.count env size count = count := if_neg fun all => reads all.2.2
      rw [none]
      simp [taGetAllCoilDataUnpacked, taOpenPersistentObject, taReadPersistentObject,
        Environment.handler, opened, Environment.readObjectData, fails, Tee.addObject,
        Tee.storageCall]
  · obtain ⟨res, failed, unopened⟩ := openPersistentObject_unopened opens ⟨true, false, false⟩
    have none : s.footprint.count env size count = count :=
      if_neg fun all => opens ⟨all.2.1, all.1⟩
    have dead : teeErrorBadState ≠ teeSuccess := by decide
    rw [none]
    simp [taGetAllCoilDataUnpacked, taOpenPersistentObject, taReadPersistentObject,
      Environment.handler, unopened, failed, Environment.readObjectData, Tee.object, dead]

theorem SigningResult.emits {env : Environment} {s t : Tee} {message : List UInt8}
    (result : SigningResult env s message pointer t len)
    (works : len = 128 ↔ env.SignWorks call) :
    len = UInt32.ofNat (env.emitted call message).length ∧
      t.memory = delivered s.memory pointer (env.emitted call message) ∧
      t.store = s.store ∧ t.storageCalls = s.storageCalls := by
  cases result with
  | signed visible =>
    have out : env.emitted call message = env.crypto.signature message := if_pos (works.mp rfl)
    obtain ⟨store, memory, _, calls⟩ : t.store = _ ∧ t.memory = _ ∧ t.signed = _ ∧
        t.storageCalls = _ := by simpa only [Tee.visible, Prod.mk.injEq] using visible
    rw [out]
    exact ⟨by rw [env.crypto.signature_length]; rfl, memory, store, calls⟩
  | failed failing visible =>
    have broken : ¬ env.SignWorks call := fun working => absurd (works.mpr working) (by decide)
    have out : env.emitted call message = List.replicate 512 0 := if_neg broken
    obtain ⟨store, memory, _, calls⟩ : t.store = _ ∧ t.memory = _ ∧ t.signed = _ ∧
        t.storageCalls = _ := by simpa only [Tee.visible, Prod.mk.injEq] using visible
    rw [out]
    exact ⟨by rw [List.length_replicate]; rfl, memory, store, calls⟩

theorem overwrite_stored (call : Nat) (data : List UInt8) :
    (if (env.storage call).result = teeSuccess then Function.update s.store filename (some data)
      else s.store) filename = s.footprint.overwrite env call data := by
  by_cases success : env.Stores call
  · rw [Footprint.overwrite, if_pos success]
    exact (congrFun (if_pos success) filename).trans (Function.update_self ..)
  · rw [Footprint.overwrite, if_neg success]
    exact congrFun (if_neg success) filename

variable {env seed s} {request : Invocation} {res : TeeResult} {params : TeeParams} {t : Tee}

theorem verdict_decided {call : Nat} {message signature : List UInt8} {verdict : Int32}
    (decided : verdict = 1 ∨ verdict = -1)
    (works : verdict = 1 ↔ env.VerifyWorks call ∧ env.crypto.valid message signature = true) :
    verdict = env.verdict call message signature := by
  unfold Environment.verdict
  split
  · next holds => exact works.mpr holds
  · next fails => exact decided.resolve_left fun one => fails (works.mp one)

/-- What a command other than TA_GET_ALL does is decided by its effect and by the calls
that its signature or its verdict depends on. -/
theorem Effect.reacts (effect : Effect env seed request s res params t)
    (other : request.nCommandID ≠ CommandId.getAllCoilData)
    (calls : t.cryptoCalls = (s.footprint.react env seed request).2.cryptoCalls)
    (signs : request.nCommandID = CommandId.signCoilData →
      (params.p1.b = 128 ↔ env.SignWorks s.cryptoCalls))
    (gets : request.nCommandID = CommandId.getDataByCoilAddress →
      (params.p1.b = 128 ↔ env.SignWorks s.cryptoCalls))
    (verifies : request.nCommandID = CommandId.verifyCoilData →
      (params.p2.a = 1 ↔ env.VerifyWorks s.cryptoCalls ∧ env.crypto.valid
        (request.bytes request.pParams.p0) (request.bytes request.pParams.p1) = true))
    (sets : request.nCommandID = CommandId.setDataByCoilAddress →
      (params.p3.a = 1 ↔ env.VerifyWorks s.cryptoCalls ∧ env.crypto.valid
        (request.bytes request.pParams.p1) (request.bytes request.pParams.p2) = true)) :
    (((res, params), t.memory), t.footprint) = s.footprint.react env seed request := by
  cases effect with
  | getAllCoilData command => exact absurd command other
  | seedCoil command visible =>
    rw [Footprint.react_seed env seed _ command] at calls ⊢
    obtain ⟨store, memory, _, counted⟩ : t.store = _ ∧ t.memory = _ ∧ t.signed = _ ∧
        t.storageCalls = _ := by simpa only [Tee.visible, Prod.mk.injEq] using visible
    exact Prod.ext (Prod.ext rfl memory) (Footprint.ext
      ((congrFun store filename).trans (overwrite_stored env s _ _)) counted calls)
  | getDataByCoilAddress len command result =>
    rw [Footprint.react_get env seed _ command] at calls ⊢
    obtain ⟨out, memory, store, counted⟩ := result.emits (gets command)
    exact Prod.ext (Prod.ext (by rw [out]; rfl) memory)
      (Footprint.ext (congrFun store filename) counted calls)
  | setAccepted command valid visible =>
    rw [Footprint.react_set env seed _ command] at calls ⊢
    obtain ⟨store, memory, _, counted⟩ : t.store = _ ∧ t.memory = _ ∧ t.signed = _ ∧
        t.storageCalls = _ := by simpa only [Tee.visible, Prod.mk.injEq] using visible
    have one : (1 : Int32) = env.verdict s.cryptoCalls (request.bytes request.pParams.p1)
        (request.bytes request.pParams.p2) :=
      verdict_decided (.inl rfl) ⟨fun _ => (sets command).mp rfl, fun _ => rfl⟩
    have accepts : ¬ (1 : Int32) = -1 := refusal_apart.symm
    simp only [Footprint.setDataByCoilAddress, Tee.footprint, ← one, if_neg accepts] at calls ⊢
    exact Prod.ext (Prod.ext rfl memory) (Footprint.ext
      ((congrFun store filename).trans (overwrite_stored env s _ _)) counted calls)
  | setRejected command unverified visible =>
    rw [Footprint.react_set env seed _ command] at calls ⊢
    obtain ⟨store, memory, _, counted⟩ := visible_ext visible
    have refused : (-1 : Int32) = env.verdict s.cryptoCalls (request.bytes request.pParams.p1)
        (request.bytes request.pParams.p2) :=
      verdict_decided (.inr rfl) ⟨fun one => absurd one refusal_apart, fun holds => by
        have published : (-1 : Int32).toUInt32 = 1 := (sets command).mpr holds
        exact absurd published (by decide)⟩
    simp only [Footprint.setDataByCoilAddress, Tee.footprint, ← refused, ↓reduceIte] at calls ⊢
    exact Prod.ext (Prod.ext rfl memory) (Footprint.ext (congrFun store filename) counted calls)
  | verifyCoilData verdict command verified =>
    rw [Footprint.react_verify env seed _ command] at calls ⊢
    obtain ⟨store, memory, _, counted⟩ := visible_ext verified.visible
    have decided : verdict = env.verdict s.cryptoCalls (request.bytes request.pParams.p0)
        (request.bytes request.pParams.p1) :=
      verdict_decided verified.decided ((verdict_word_iff verdict).symm.trans (verifies command))
    subst decided
    exact Prod.ext (Prod.ext rfl memory) (Footprint.ext (congrFun store filename) counted calls)
  | signCoilData len command result =>
    rw [Footprint.react_sign env seed _ command] at calls ⊢
    obtain ⟨out, memory, store, counted⟩ := result.emits (signs command)
    exact Prod.ext (Prod.ext (by rw [out]; rfl) memory)
      (Footprint.ext (congrFun store filename) counted calls)
  | unknown command =>
    rw [Footprint.react_unknown env seed _ command]
    rfl

variable (env seed s request)

theorem getAll_reacts (command : request.nCommandID = CommandId.getAllCoilData) :
    let r := env.invoke seed request s
    ((r.1, r.2.memory), r.2.footprint) = s.footprint.react env seed request := by
  intro r
  have calls : r.2.cryptoCalls = _ := invoke_cryptoCalls env s seed request
  have reached : r = _ := invoke_eq seed env s request
  rw [Footprint.react_getAll env seed _ command] at calls ⊢
  rw [program_getAllCoilData seed command] at reached
  obtain ⟨done, visible⟩ := taGetAllCoilData_run env (request.supply s) request.pParams
  have counted := taGetAllCoilDataUnpacked_count env (request.supply s)
    (.shared request.pParams.p0.buffer) request.pParams.p0.size.toNat request.pParams.p1.a
  have params : r.1.2 = { request.pParams with p1 := { request.pParams.p1 with
      a := s.footprint.count env request.pParams.p0.size.toNat request.pParams.p1.a } } := by
    rw [reached]
    simp only [taGetAllCoilData, Program.run_bind, Program.run_pure, counted]
    rfl
  rw [← reached] at done visible
  obtain ⟨store, memory, _, storageCalls⟩ : r.2.store = _ ∧ r.2.memory = _ ∧ r.2.signed = _ ∧
      r.2.storageCalls = _ := by simpa only [Tee.visible, Prod.mk.injEq] using visible
  exact Prod.ext (Prod.ext (Prod.ext done params) memory)
    (Footprint.ext (congrFun store filename) storageCalls calls)

/-- The specification of every command: answer, parameter memory and footprint. -/
theorem invoke_reacts :
    let r := env.invoke seed request s
    ((r.1, r.2.memory), r.2.footprint) = s.footprint.react env seed request := by
  by_cases gettingAll : request.nCommandID = CommandId.getAllCoilData
  · exact getAll_reacts env seed s request gettingAll
  · exact (invoke_effect env seed request s).reacts gettingAll
      (invoke_cryptoCalls env s seed request) (signData_works_iff env seed s)
      (getData_works_iff env seed s) (verifyData_works_iff env seed s)
      (setData_works_iff env seed s)

end Reactions

section Runs
variable (env : Environment) (seed : Seed)

/-- The application with everything a command shows. -/
def observed : Machine Tee Invocation Answer where
  step s request :=
    let r := env.invoke seed request s
    ((r.1, r.2.memory), r.2)
  admissible _ _ := True

/-- The application by its specification. -/
def reactor : Machine Footprint Invocation Answer where
  step f request := f.react env seed request
  admissible _ _ := True

/-- The application whose instance is exchanged before every command: of the state that a
command finds, only the footprint is what the last one left. -/
def renewed : Machine Tee (Tee × Invocation) Answer where
  step s input :=
    (observed env seed).step { input.1 with
      store := Function.update input.1.store filename s.footprint.stored
      storageCalls := s.footprint.storageCalls
      cryptoCalls := s.footprint.cryptoCalls } input.2
  admissible _ _ := True

variable {env seed} {s t start : Tee} {history : History Invocation Answer}

variable (env seed) in
theorem observed_shows (s : Tee) (request : Invocation) :
    ((observed env seed).step s request).1 = (s.footprint.react env seed request).1 :=
  congrArg Prod.fst (invoke_reacts env seed s request)

variable (env seed) in
theorem observed_moves (s : Tee) (request : Invocation) :
    ((observed env seed).step s request).2.footprint = (s.footprint.react env seed request).2 :=
  congrArg Prod.snd (invoke_reacts env seed s request)

/-- Over whole runs the application and its specification show the same, in both
directions and for every pattern of failures. -/
theorem application_observable (start : Tee) (history : History Invocation Answer) (f : Footprint) :
    (∃ t, Run (observed env seed) start history t ∧ t.footprint = f) ↔
      Run (reactor env seed) start.footprint history f := by
  constructor
  · rintro ⟨t, run, rfl⟩
    obtain ⟨f, reacts, rfl⟩ := run.simulated (N := reactor env seed)
      (fun s f => s.footprint = f) id rfl fun s f request same _ => by
        subst same
        exact ⟨request, trivial, Prod.ext rfl (observed_shows env seed s request),
          observed_moves env seed s request⟩
    rwa [List.map_id] at reacts
  · intro run
    obtain ⟨t, runs, same⟩ := run.simulated (N := observed env seed)
      (fun f s => s.footprint = f) id rfl fun f s request same _ => by
        subst same
        exact ⟨request, trivial, Prod.ext rfl (observed_shows env seed s request).symm,
          observed_moves env seed s request⟩
    rw [List.map_id] at runs
    exact ⟨t, runs, same⟩

/-- Exchanging the instance before every command, whatever the new one holds, shows
nothing else than one instance that lives on. -/
theorem instance_exchanged {start' : Tee} {exchanges : History (Tee × Invocation) Answer}
    (run : Run (renewed env seed) start exchanges t)
    (same : start'.footprint = start.footprint) :
    ∃ t', Run (observed env seed) start'
        (exchanges.map fun event => (event.1.2, event.2)) t' ∧ t'.footprint = t.footprint := by
  apply run.simulated (N := observed env seed) (fun s s' => s'.footprint = s.footprint)
    (fun event => (event.1.2, event.2)) same
  intro s s' input same _
  let found : Tee := { input.1 with
    store := Function.update input.1.store filename s.footprint.stored
    storageCalls := s.footprint.storageCalls
    cryptoCalls := s.footprint.cryptoCalls }
  have kept : found.footprint = s'.footprint := by
    have stored : Function.update input.1.store filename s.footprint.stored filename =
        s.footprint.stored := Function.update_self ..
    rw [same]
    exact Footprint.ext stored rfl rfl
  refine ⟨input.2, trivial, Prod.ext rfl ?_, ?_⟩
  · have here := observed_shows env seed found input.2
    rw [kept] at here
    exact here.trans (observed_shows env seed s' input.2).symm
  · have here := observed_moves env seed found input.2
    rw [kept] at here
    exact (observed_moves env seed s' input.2).trans here.symm

/-- A seed by one instance and a read by another, which found another store. -/
theorem instance_exchanged_shipped :
    let M := renewed .reference .shipped
    let first := (Tee.holding [0x80], Invocation.plain CommandId.seedCoil)
    let second := (Tee.holding [], Invocation.plain CommandId.getDataByCoilAddress)
    let s := (M.step .fresh first).2
    ∃ t, Run (observed .reference .shipped) .fresh
        [(first.2, (M.step .fresh first).1), (second.2, (M.step s second).1)] t ∧
      t.footprint = (M.step s second).2.footprint := by
  intro M first second s
  have run := (Run.single (M := M) .fresh first trivial rfl).snoc second trivial
  exact instance_exchanged run rfl

end Runs

end InvCtrl
