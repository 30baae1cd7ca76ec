import InvCtrl.Outcomes
import InvCtrl.Register

/-! Which handles a command passes to its calls. The account of a command starts empty;
it gains a handle with each successful open, create or allocation and loses it when
the handle is closed or freed. -/
namespace InvCtrl
open Interaction

/-- The handles that a command has obtained and not yet given back. -/
structure Holdings where
  objects : List Nat
  operations : List Nat

namespace Holdings

def empty : Holdings := ⟨[], []⟩

def addObject (held : Holdings) (res : TeeResult) : Handle → Holdings
  | .live id => if res = teeSuccess then { held with objects := id :: held.objects } else held
  | _ => held

def addOperation (held : Holdings) (res : TeeResult) : Handle → Holdings
  | .live id =>
    if res = teeSuccess then { held with operations := id :: held.operations } else held
  | _ => held

def dropObject (held : Holdings) : Handle → Holdings
  | .live id => { held with objects := held.objects.filter (· ≠ id) }
  | _ => held

def dropOperation (held : Holdings) : Handle → Holdings
  | .live id => { held with operations := held.operations.filter (· ≠ id) }
  | _ => held

/-- The account after one more call and its reply. -/
def move (held : Holdings) : TeeEvent → Holdings
  | ⟨.createPersistentObject .., (res, object)⟩ => held.addObject res object
  | ⟨.openPersistentObject .., (res, object)⟩ => held.addObject res object
  | ⟨.allocateTransientObject .., (res, object)⟩ => held.addObject res object
  | ⟨.allocateOperation .., (res, operation)⟩ => held.addOperation res operation
  | ⟨.closeObject object, _⟩ => held.dropObject object
  | ⟨.freeTransientObject object, _⟩ => held.dropObject object
  | ⟨.freeOperation operation, _⟩ => held.dropOperation operation
  | _ => held

def HasObject (held : Holdings) (object : Handle) : Prop := ∃ id ∈ held.objects, object = .live id

def HasOperation (held : Holdings) (operation : Handle) : Prop :=
  ∃ id ∈ held.operations, operation = .live id

/-- Every handle that the call passes is held. -/
def Covers (held : Holdings) : TeeCall → Prop
  | .readObjectData object .. | .closeObject object | .populateTransientObject object _
  | .freeTransientObject object => held.HasObject object
  | .freeOperation operation | .digestDoFinal operation .. | .asymmetricVerifyDigest operation ..
  | .asymmetricSignDigest operation .. => held.HasOperation operation
  | .setOperationKey operation key => held.HasOperation operation ∧ held.HasObject key
  | _ => True

/-- The calls pass handles that are held where they are passed. -/
def Uphold (held : Holdings) (calls : List TeeEvent) : Prop :=
  Checked move (fun held event => held.Covers event.request) held calls

def after (held : Holdings) (calls : List TeeEvent) : Holdings := calls.foldl move held

@[simp] theorem after_nil (held : Holdings) : held.after [] = held := rfl

@[simp] theorem after_cons (held : Holdings) (event : TeeEvent) (rest : List TeeEvent) :
    held.after (event :: rest) = (held.move event).after rest := rfl

@[simp] theorem after_append (held : Holdings) (first second : List TeeEvent) :
    held.after (first ++ second) = (held.after first).after second := List.foldl_append

@[simp] theorem uphold_nil (held : Holdings) : held.Uphold [] := trivial

@[simp] theorem uphold_cons (held : Holdings) (event : TeeEvent) (rest : List TeeEvent) :
    held.Uphold (event :: rest) ↔ held.Covers event.request ∧ (held.move event).Uphold rest :=
  Iff.rfl

@[simp] theorem uphold_append (held : Holdings) (first second : List TeeEvent) :
    held.Uphold (first ++ second) ↔ held.Uphold first ∧ (held.after first).Uphold second :=
  checked_append _ _ _

@[simp] theorem not_hasOperation_null (held : Holdings) : ¬ held.HasOperation .null := by
  simp [HasOperation]

@[simp] theorem not_hasObject_null (held : Holdings) : ¬ held.HasObject .null := by
  simp [HasObject]

@[simp] theorem not_hasObject_indeterminate (held : Holdings) : ¬ held.HasObject .indeterminate := by
  simp [HasObject]

end Holdings

/-- Every handle passed to a call was returned by an earlier successful call of the same
command and has not been closed or freed since. -/
def UsesLiveHandles (calls : List TeeEvent) : Prop :=
  ∀ before event rest, calls = before ++ event :: rest →
    (Holdings.empty.after before).Covers event.request

theorem usesLiveHandles_iff (calls : List TeeEvent) :
    UsesLiveHandles calls ↔ Holdings.empty.Uphold calls :=
  Iff.symm (checked_iff Holdings.empty calls)

section Pieces
variable (env : Environment) (s : Tee) (held : Holdings)

theorem createKey_trace (keyType : KeyType) (attrs : List Attribute) (handle : Handle) :
    let allocated := env.allocateTransientObject keyType s
    let object := if allocated.1.1 = teeSuccess then allocated.1.2 else handle
    (createKey maxKeySize keyType attrs handle).trace env.handler s =
      [⟨.allocateTransientObject keyType maxKeySize, allocated.1⟩,
        ⟨.populateTransientObject object attrs,
          (env.populateTransientObject object attrs allocated.2).1⟩] := rfl

/-- A key is made with a live handle exactly if its allocation succeeds. -/
theorem createKey_upholds_iff (keyType : KeyType) (attrs : List Attribute) :
    held.Uphold ((createKey maxKeySize keyType attrs .null).trace env.handler s) ↔
      env.Answers s.cryptoCalls := by
  rw [createKey_trace]
  by_cases allocated : env.Answers s.cryptoCalls
  · have result : (env.cryptography s.cryptoCalls).result = teeSuccess := allocated
    simp [Holdings.Covers, Holdings.move, Holdings.addObject, Holdings.HasObject,
      Environment.allocateTransientObject, result, allocated]
  · have result : (env.cryptography s.cryptoCalls).result ≠ teeSuccess := allocated
    simp [Holdings.Covers, Holdings.move, Holdings.addObject,
      Environment.allocateTransientObject, result, allocated]

theorem createKey_after (keyType : KeyType) (attrs : List Attribute)
    (allocated : env.Answers s.cryptoCalls) :
    held.after ((createKey maxKeySize keyType attrs .null).trace env.handler s) =
      { held with objects := s.next :: held.objects } := by
  have result : (env.cryptography s.cryptoCalls).result = teeSuccess := allocated
  rw [createKey_trace]
  simp [Holdings.move, Holdings.addObject, Environment.allocateTransientObject, result]

theorem taAllocateOperation_trace (operation : Handle) (algorithm : Algorithm)
    (mode : OperationMode) (size : Nat) :
    (taAllocateOperation operation algorithm mode size).trace env.handler s =
      [⟨.allocateOperation algorithm mode size, (env.allocateOperation algorithm mode s).1⟩] := by
  rw [taAllocateOperation, Program.trace_bind, Program.trace_perform, Program.trace_pure,
    List.append_nil]
  rfl

theorem taDigestDoFinal_trace (operation : Handle) (chunk : Buffer) (len : Nat)
    (hash : List UInt8) :
    (taDigestDoFinal operation chunk len hash 64).trace env.handler s =
      [⟨.digestDoFinal operation chunk len 64,
        (env.digestDoFinal operation chunk len 64 s).1⟩] := by
  rw [taDigestDoFinal, Program.trace_bind, Program.trace_perform, Program.trace_pure,
    List.append_nil]
  rfl

/-- The three allocations on which the handles of a signature operation depend. -/
def Environment.Allocates (call : Nat) : Prop := ∀ step ∈ [0, 2, 4], env.Answers (call + step)

theorem allocates_iff (call : Nat) :
    env.Allocates call ↔
      env.Answers call ∧ env.Answers (call + 2) ∧ env.Answers (call + 4) := by
  simp [Environment.Allocates]

/-- The part before the switch passes live handles exactly if its three allocations
succeed; it then leaves an operation and both keys in the account. -/
theorem taDigestAndKeys_upholds_iff (dataToSign : Buffer) (dataLen : Nat) :
    held.Uphold ((taDigestAndKeys dataToSign dataLen).trace env.handler s) ↔
      env.Allocates s.cryptoCalls := by
  rw [allocates_iff]
  simp only [taDigestAndKeys, Program.trace_bind, Program.trace_perform, Program.trace_pure,
    taAllocateOperation_trace, taDigestDoFinal_trace, Holdings.uphold_append, Holdings.uphold_cons,
    Holdings.uphold_nil,
    createKey_upholds_iff, createKey_calls, taDigestDoFinal_calls, taAllocateOperation_run,
    Program.run_perform, Environment.handler]
  by_cases allocated : env.Answers s.cryptoCalls
  · have result : (env.cryptography s.cryptoCalls).result = teeSuccess := allocated
    simp [Holdings.Covers, Holdings.move, Holdings.addOperation, Holdings.HasOperation,
      Environment.allocateOperation, result, allocated, Tee.addOperation, Tee.cryptoCall]
  · simp [Holdings.Covers, allocated]

theorem taDigestAndKeys_after (dataToSign : Buffer) (dataLen : Nat)
    (allocates : env.Allocates s.cryptoCalls) :
    let r := (taDigestAndKeys dataToSign dataLen).run env.handler s
    let account := held.after ((taDigestAndKeys dataToSign dataLen).trace env.handler s)
    account.HasOperation r.1.1 ∧ account.HasObject r.1.2.2.1 ∧ account.HasObject r.1.2.2.2 := by
  intro r account
  obtain ⟨operation, first, second⟩ := (allocates_iff env _).mp allocates
  have result : (env.cryptography s.cryptoCalls).result = teeSuccess := operation
  simp only [r, account, taDigestAndKeys, Program.trace_bind, Program.trace_perform,
    Program.trace_pure, Program.run_bind, Program.run_perform, Program.run_pure,
    taAllocateOperation_trace, taDigestDoFinal_trace, taAllocateOperation_run, operation,
    Environment.handler, ↓reduceIte, Holdings.after_append, Holdings.after_cons,
    Holdings.after_nil]
  generalize digested : (taDigestDoFinal _ _ _ _ _).run env.handler _ = d
  have calls : d.2.cryptoCalls = s.cryptoCalls + 2 := by
    rw [← digested, taDigestDoFinal_calls]
    rfl
  have between : ((createKey maxKeySize .rsaPublicKey publicKeyAttrs .null).run env.handler
      d.2).2.cryptoCalls = s.cryptoCalls + 4 := by
    rw [createKey_calls, calls]
  rw [← calls] at first
  rw [← between] at second
  rw [createKey_after env _ _ .rsaKeypair keypairAttrs second,
    createKey_after env _ _ .rsaPublicKey publicKeyAttrs first, createKey_handle, createKey_handle,
    if_pos first, if_pos second]
  refine ⟨⟨s.next, ?_, rfl⟩, ⟨d.2.next, ?_, rfl⟩, ⟨_, List.mem_cons_self, rfl⟩⟩
  · simp [Holdings.move, Holdings.addOperation, Environment.allocateOperation, result]
  · exact List.mem_cons_of_mem _ List.mem_cons_self

variable {held} in
/-- Arming a held operation, or a fresh one, with a held key keeps to the account and
leaves an operation in it. -/
theorem armOperation_upholds {operation key : Handle} (mode : OperationMode)
    (heldOperation : held.HasOperation operation) (heldKey : held.HasObject key) :
    let trace := (armOperation operation key mode).trace env.handler s
    held.Uphold trace ∧
      (held.after trace).HasOperation ((armOperation operation key mode).run env.handler s).1 := by
  intro trace
  obtain ⟨id, member, rfl⟩ := heldOperation
  obtain ⟨keyId, keyMember, rfl⟩ := heldKey
  by_cases allocated : env.Answers s.cryptoCalls
  · have result : (env.cryptography s.cryptoCalls).result = teeSuccess := allocated
    simp [trace, armOperation, taAllocateOperation, taSetOperationKey, taFreeTransientObject,
      Environment.handler, Environment.allocateOperation, result, Holdings.Covers, Holdings.move,
      Holdings.addOperation, Holdings.dropObject, Holdings.HasOperation, Holdings.HasObject,
      keyMember]
  · have result : (env.cryptography s.cryptoCalls).result ≠ teeSuccess := allocated
    simp [trace, armOperation, taAllocateOperation, taSetOperationKey, taFreeTransientObject,
      Environment.handler, Environment.allocateOperation, result, Holdings.Covers, Holdings.move,
      Holdings.addOperation, Holdings.dropObject, Holdings.HasOperation, Holdings.HasObject,
      keyMember, member]

theorem taCopySignature_upholds (signaturePtr : UInt32) (loop : Nat) (out : List UInt8) :
    let trace := (taCopySignature signaturePtr loop out).trace env.handler s
    held.Uphold trace ∧ held.after trace = held := by
  induction out generalizing loop s with
  | nil => exact ⟨trivial, rfl⟩
  | cons value rest ih =>
    obtain ⟨upholds, same⟩ := ih (env.handler (.storeByte signaturePtr loop value) s).2 (loop + 1)
    exact ⟨⟨trivial, upholds⟩, same⟩

end Pieces

section Routines
variable (env : Environment) (s : Tee) (held : Holdings)

theorem taSign_upholds_iff (dataToSign : Buffer) (dataLen : Nat)
    (signaturePtr signatureLen : UInt32) :
    held.Uphold ((taSign dataToSign dataLen signaturePtr signatureLen).trace env.handler s) ↔
      env.Allocates s.cryptoCalls := by
  have prepares := taDigestAndKeys_upholds_iff env s held dataToSign dataLen
  simp only [taSign, taSignAndVerify, taSignCase_eq, taFreeOperation, taAsymmetricSignDigest,
    bind_assoc, pure_bind, Program.trace_bind, Program.trace_perform, Program.trace_pure,
    Holdings.uphold_append, Holdings.uphold_cons, Holdings.uphold_nil, Holdings.after_cons,
    Holdings.after_nil, List.append_nil, and_true]
  constructor
  · intro upholds
    exact prepares.mp upholds.1
  · intro allocates
    obtain ⟨operation, _, key⟩ := taDigestAndKeys_after env s held dataToSign dataLen allocates
    refine ⟨prepares.mpr allocates, ?_⟩
    generalize held.after _ = account at operation key ⊢
    generalize (taDigestAndKeys dataToSign dataLen).run env.handler s = r at operation key ⊢
    obtain ⟨arms, armed⟩ := armOperation_upholds env r.2 .sign operation key
    refine ⟨arms, armed, ?_⟩
    have copies (account : Holdings) (t : Tee) (out : List UInt8) :=
      taCopySignature_upholds env t account signaturePtr 0 out
    refine ⟨(copies _ _ _).1, ?_⟩
    rw [(copies _ _ _).2]
    exact armed

theorem taVerify_upholds_iff (dataToSign : Buffer) (dataLen : Nat)
    (signaturePtr signatureLen : UInt32) (signatureVerified : Int32) :
    held.Uphold ((taVerify dataToSign dataLen signaturePtr signatureLen signatureVerified).trace
        env.handler s) ↔ env.Allocates s.cryptoCalls := by
  have prepares := taDigestAndKeys_upholds_iff env s held dataToSign dataLen
  simp only [taVerify, taSignAndVerify, taVerifyCase_eq, taFreeOperation,
    taAsymmetricVerifyDigest, bind_assoc, pure_bind, Program.trace_bind, Program.trace_perform,
    Program.trace_pure, Holdings.uphold_append, Holdings.uphold_cons, Holdings.uphold_nil,
    Holdings.after_cons, Holdings.after_nil, List.append_nil, and_true]
  constructor
  · intro upholds
    exact prepares.mp upholds.1
  · intro allocates
    obtain ⟨operation, key, _⟩ := taDigestAndKeys_after env s held dataToSign dataLen allocates
    refine ⟨prepares.mpr allocates, ?_⟩
    generalize held.after _ = account at operation key ⊢
    generalize (taDigestAndKeys dataToSign dataLen).run env.handler s = r at operation key ⊢
    obtain ⟨arms, armed⟩ := armOperation_upholds env r.2 .verify operation key
    exact ⟨arms, armed, armed⟩

theorem taGetAllCoilDataUnpacked_upholds_iff (buffer : Buffer) (size : Nat) (count : UInt32) :
    held.Uphold ((taGetAllCoilDataUnpacked buffer size count).trace env.handler s) ↔
      env.OpensCoil s := by
  rw [taGetAllCoilDataUnpacked_trace]
  by_cases opens : env.OpensCoil s
  · rw [openPersistentObject_opened opens]
    simp [opens, Holdings.Covers, Holdings.move, Holdings.addObject, Holdings.HasObject]
  · obtain ⟨res, failed, unopened⟩ := openPersistentObject_unopened opens ⟨true, false, false⟩
    rw [unopened]
    simp [opens, failed, Holdings.Covers]

theorem taOverwriteCoilWithData_upholds_iff (newCoilData : List UInt8) (newCoilDataLen : Nat) :
    held.Uphold ((taOverwriteCoilWithData newCoilData newCoilDataLen).trace env.handler s) ↔
      (env.storage s.storageCalls).result = teeSuccess := by
  by_cases created : (env.storage s.storageCalls).result = teeSuccess
  · simp [taOverwriteCoilWithData, taCreatePersistentObject, taClosePersistentObject,
      Environment.handler, Environment.createPersistentObject, created, Holdings.Covers,
      Holdings.move, Holdings.addObject, Holdings.HasObject]
  · simp [taOverwriteCoilWithData, taCreatePersistentObject, taClosePersistentObject,
      Environment.handler, Environment.createPersistentObject, created, Holdings.Covers]

end Routines

section Commands
variable (env : Environment) (seed : Seed) (s : Tee) (request : Invocation)

/-- What has to succeed for a command to pass live handles only: the create of a seed,
the open of a read, the three allocations of a signature operation, and for a set
that accepts also the open and the create that follow. -/
def Environment.ObtainsHandles : Prop :=
  if request.nCommandID = CommandId.seedCoil then (env.storage s.storageCalls).result = teeSuccess
  else if request.nCommandID = CommandId.getAllCoilData then env.OpensCoil s
  else if request.nCommandID = CommandId.getDataByCoilAddress then
    env.OpensCoil s ∧ env.Allocates s.cryptoCalls
  else if request.nCommandID = CommandId.setDataByCoilAddress then
    env.Allocates s.cryptoCalls ∧
      (env.VerifyWorks s.cryptoCalls ∧ env.crypto.valid (request.bytes request.pParams.p1)
          (request.bytes request.pParams.p2) = true →
        env.OpensCoil s ∧ (env.storage (s.storageCalls + 3)).result = teeSuccess)
  else if request.nCommandID = CommandId.verifyCoilData ∨
      request.nCommandID = CommandId.signCoilData then env.Allocates s.cryptoCalls
  else True

theorem opensCoil_congr {s t : Tee} (same : t.visible = s.visible) :
    env.OpensCoil t ↔ env.OpensCoil s := by
  obtain ⟨store, _, _, calls⟩ := visible_ext same
  rw [Environment.OpensCoil, Environment.OpensCoil, store, calls]

theorem taSetDataByCoilAddress_upholds_iff (held : Holdings) (params : TeeParams) :
    held.Uphold ((taSetDataByCoilAddress seed params).trace env.handler s) ↔
      env.Allocates s.cryptoCalls ∧
        (env.VerifyWorks s.cryptoCalls ∧ env.crypto.valid
            (s.view (.shared params.p1.buffer) params.p1.size.toNat)
            (s.view (.shared params.p2.buffer) params.p2.size.toNat) = true →
          env.OpensCoil s ∧ (env.storage (s.storageCalls + 3)).result = teeSuccess) := by
  obtain ⟨_, verified⟩ := taVerify_verified env s (.shared params.p1.buffer) params.p1.size.toNat
    params.p2.buffer params.p2.size 0
  have works := taVerify_verified_iff env s (.shared params.p1.buffer) params.p1.size.toNat
    params.p2.buffer params.p2.size 0
  simp only [taSetDataByCoilAddress, Program.trace_bind, Holdings.uphold_append]
  rw [taVerify_upholds_iff, ← works]
  refine and_congr_right fun _ => ?_
  generalize held.after _ = account
  generalize (taVerify _ _ _ _ _).run env.handler s = r at verified ⊢
  rcases verified.decided with accepted | refused
  · have accepts : r.1.2 ≠ -1 := accepted.trans_ne refusal_apart.symm
    obtain ⟨_, _, _, calls⟩ := visible_ext verified.visible
    have opens := opensCoil_congr env verified.visible
    have counted := (taGetAllCoilDataUnpacked_run env r.2
      (.stack (List.replicate seed.coilData.length 0x00)) seed.coilData.length 0).2.2
    have three := congrArg (·.2.2.2) counted
    simp only [Tee.visible] at three
    simp only [if_neg accepts, Program.trace_bind, Program.trace_pure, List.append_nil,
      Holdings.uphold_append, taGetAllCoilDataUnpacked_upholds_iff,
      taOverwriteCoilWithData_upholds_iff]
    rw [three, calls, opens]
    exact ⟨fun both _ => both, fun both => both accepted⟩
  · simp only [refused, ↓reduceIte, Program.trace_pure, Holdings.uphold_nil, true_iff]
    exact fun one => absurd one refusal_apart

/-- A command passes live handles only exactly if what its handles come from succeeds. -/
theorem live_handles_iff :
    UsesLiveHandles (env.calls seed s request) ↔ env.ObtainsHandles s request := by
  rw [usesLiveHandles_iff, Environment.ObtainsHandles]
  by_cases seeding : request.nCommandID = CommandId.seedCoil
  · rw [if_pos seeding, Environment.calls, program_seedCoil seed seeding]
    simp only [Program.trace_bind, Program.trace_pure, List.append_nil, taSeedCoil]
    exact taOverwriteCoilWithData_upholds_iff env (request.supply s) _ _ _
  rw [if_neg seeding]
  by_cases gettingAll : request.nCommandID = CommandId.getAllCoilData
  · rw [if_pos gettingAll, Environment.calls, program_getAllCoilData seed gettingAll]
    simp only [taGetAllCoilData, Program.trace_bind, Program.trace_pure, List.append_nil]
    exact taGetAllCoilDataUnpacked_upholds_iff env (request.supply s) _ _ _ _
  rw [if_neg gettingAll]
  by_cases getting : request.nCommandID = CommandId.getDataByCoilAddress
  · rw [if_pos getting, Environment.calls, program_getDataByCoilAddress seed getting]
    simp only [taGetDataByCoilAddress, Program.trace_bind, Program.trace_pure, List.append_nil,
      Holdings.uphold_append]
    rw [taGetAllCoilDataUnpacked_upholds_iff, taSign_upholds_iff, taGetAllCoilDataUnpacked_calls]
    rfl
  rw [if_neg getting]
  by_cases setting : request.nCommandID = CommandId.setDataByCoilAddress
  · rw [if_pos setting, Environment.calls, program_setDataByCoilAddress seed setting]
    exact taSetDataByCoilAddress_upholds_iff env seed (request.supply s) _ _
  rw [if_neg setting]
  by_cases verifying : request.nCommandID = CommandId.verifyCoilData
  · rw [if_pos (.inl verifying), Environment.calls, program_verifyCoilData seed verifying]
    simp only [taVerifyCoilDAta, Program.trace_bind, Program.trace_pure, List.append_nil]
    exact taVerify_upholds_iff env (request.supply s) _ _ _ _ _ _
  by_cases signing : request.nCommandID = CommandId.signCoilData
  · rw [if_pos (.inr signing), Environment.calls, program_signCoilData seed signing]
    simp only [taSignCoilData, Program.trace_bind, Program.trace_pure, List.append_nil]
    exact taSign_upholds_iff env (request.supply s) _ _ _ _ _
  rw [if_neg (not_or.mpr ⟨verifying, signing⟩), iff_true, Environment.calls,
    program_unknown seed (by simp [CommandId.all, *])]
  exact Holdings.uphold_nil _

/-- A read of all coils before any seed reads and closes a handle it never got. -/
theorem dead_handle_used :
    ¬ UsesLiveHandles
      (Environment.reference.calls .shipped .fresh (.plain CommandId.getAllCoilData)) := by
  intro live
  rw [usesLiveHandles_iff, Environment.calls, program_getAllCoilData _ rfl] at live
  simp only [taGetAllCoilData, Program.trace_bind, Holdings.uphold_append] at live
  have opens := (taGetAllCoilDataUnpacked_upholds_iff _ _ _ _ _ _).mp live.1
  cases opens.2

end Commands

end InvCtrl
