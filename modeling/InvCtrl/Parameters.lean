import InvCtrl.SignatureBuffer

/-! How a command uses the four parameter unions. The type word that comes with them
is an unused parameter of the entry point: the command word alone decides which
union is read as a value and which as a pointer and a length. -/
namespace InvCtrl
open Interaction

/-- What the code of a command does with a parameter. -/
inductive Usage where
  | unused | readsValue | writesValue | readsMemory | writesMemory
  deriving DecidableEq, Repr

/-- The kinds that allow a use: 1, 2 and 3 are a value in, out and both ways, 5, 6 and
7 the same for a memory reference. -/
def Usage.kinds : Usage → List UInt32
  | .unused => []
  | .readsValue => [1, 3]
  | .writesValue => [2, 3]
  | .readsMemory => [5, 7]
  | .writesMemory => [6, 7]

def Usage.Allows (usage : Usage) (kind : UInt32) : Prop := usage = .unused ∨ kind ∈ usage.kinds

instance (usage : Usage) (kind : UInt32) : Decidable (usage.Allows kind) :=
  inferInstanceAs (Decidable (_ ∨ _))

def Usage.isMemory : Usage → Bool
  | .readsMemory | .writesMemory => true
  | _ => false

/-- The layouts of the six commands. -/
def usages (nCommandID : UInt32) : List Usage :=
  if nCommandID = CommandId.getAllCoilData then [.writesMemory, .writesValue, .unused, .unused]
  else if nCommandID = CommandId.getDataByCoilAddress then
    [.readsValue, .writesMemory, .writesValue, .unused]
  else if nCommandID = CommandId.setDataByCoilAddress then
    [.readsValue, .readsMemory, .readsMemory, .writesValue]
  else if nCommandID = CommandId.verifyCoilData then
    [.readsMemory, .readsMemory, .writesValue, .unused]
  else if nCommandID = CommandId.signCoilData then
    [.readsMemory, .writesMemory, .unused, .unused]
  else [.unused, .unused, .unused, .unused]

/-- `TEE_PARAM_TYPE_GET` for each of the four parameters. -/
def kinds (nParamTypes : UInt32) : List UInt32 :=
  [nParamTypes &&& 0xF, (nParamTypes >>> 4) &&& 0xF, (nParamTypes >>> 8) &&& 0xF,
    (nParamTypes >>> 12) &&& 0xF]

/-- The type word gives every parameter that the command uses a kind that allows it. -/
def WellTyped (nCommandID nParamTypes : UInt32) : Prop :=
  ∀ use ∈ (usages nCommandID).zip (kinds nParamTypes), use.1.Allows use.2

instance (nCommandID nParamTypes : UInt32) : Decidable (WellTyped nCommandID nParamTypes) :=
  inferInstanceAs (Decidable (∀ use ∈ _, _))

def TeeParams.toList (params : TeeParams) : List TeeParam :=
  [params.p0, params.p1, params.p2, params.p3]

/-- The pointers of the parameters that the command uses as memory references. -/
def Invocation.references (request : Invocation) : List UInt32 :=
  (((usages request.nCommandID).zip request.pParams.toList).filter (·.1.isMemory)).map
    (·.2.buffer)

def Buffer.pointers : Buffer → List UInt32
  | .stack _ => []
  | .shared pointer => [pointer]

/-- The parameter addresses that a call reads or writes. -/
def TeeCall.pointers : TeeCall → List UInt32
  | .readObjectData _ buffer _ => buffer.pointers
  | .digestDoFinal _ chunk _ _ => chunk.pointers
  | .asymmetricVerifyDigest _ _ _ signature _ => signature.pointers
  | .storeByte pointer _ _ => [pointer]
  | _ => []

def TeeCall.Within (pointers : List UInt32) (call : TeeCall) : Prop :=
  ∀ pointer ∈ call.pointers, pointer ∈ pointers

section Routines
variable {pointers : List UInt32}

theorem createKey_within (size : Nat) (keyType : KeyType) (attrs : List Attribute)
    (handle : Handle) : (createKey size keyType attrs handle).Uses (TeeCall.Within pointers) := by
  simp [createKey, taAllocateTransientObject, taPopulateTransientObject, TeeCall.Within,
    TeeCall.pointers]

theorem taDigestAndKeys_within (dataToSign : Buffer) (dataLen : Nat)
    (data : ∀ pointer ∈ dataToSign.pointers, pointer ∈ pointers) :
    (taDigestAndKeys dataToSign dataLen).Uses (TeeCall.Within pointers) := by
  simp only [taDigestAndKeys, taAllocateOperation, taDigestDoFinal, bind_assoc, pure_bind,
    Program.uses_perform_bind]
  refine ⟨by simp [TeeCall.Within, TeeCall.pointers], fun residue =>
    ⟨by simp [TeeCall.Within, TeeCall.pointers], fun allocated => ⟨data, fun digest => ?_⟩⟩⟩
  refine .bind (createKey_within ..) fun publicKey => ?_
  exact .bind (createKey_within ..) fun privateKey => Program.uses_pure _

theorem armOperation_within (operation key : Handle) (mode : OperationMode) :
    (armOperation operation key mode).Uses (TeeCall.Within pointers) := by
  simp [armOperation, taAllocateOperation, taSetOperationKey, taFreeTransientObject,
    TeeCall.Within, TeeCall.pointers]

theorem taSign_within (dataToSign : Buffer) (dataLen : Nat) (signaturePtr signatureLen : UInt32)
    (data : ∀ pointer ∈ dataToSign.pointers, pointer ∈ pointers)
    (signature : signaturePtr ∈ pointers) :
    (taSign dataToSign dataLen signaturePtr signatureLen).Uses (TeeCall.Within pointers) := by
  refine taSign_uses _ _ _ _ (taDigestAndKeys_within _ _ data) armOperation_within ?_ ?_ ?_
  · simp [TeeCall.Within, TeeCall.pointers]
  · simp [TeeCall.Within, TeeCall.pointers, signature]
  · simp [TeeCall.Within, TeeCall.pointers]

theorem taVerify_within (dataToSign : Buffer) (dataLen : Nat) (signaturePtr signatureLen : UInt32)
    (signatureVerified : Int32) (data : ∀ pointer ∈ dataToSign.pointers, pointer ∈ pointers)
    (signature : signaturePtr ∈ pointers) :
    (taVerify dataToSign dataLen signaturePtr signatureLen signatureVerified).Uses
      (TeeCall.Within pointers) := by
  refine taVerify_uses _ _ _ _ _ (taDigestAndKeys_within _ _ data) armOperation_within ?_ ?_
  · simp [TeeCall.Within, TeeCall.pointers, Buffer.pointers, signature]
  · simp [TeeCall.Within, TeeCall.pointers]

theorem taGetAllCoilDataUnpacked_within (buffer : Buffer) (size : Nat) (count : UInt32)
    (data : ∀ pointer ∈ buffer.pointers, pointer ∈ pointers) :
    (taGetAllCoilDataUnpacked buffer size count).Uses (TeeCall.Within pointers) := by
  simp only [taGetAllCoilDataUnpacked, taOpenPersistentObject, taReadPersistentObject,
    taClosePersistentObject, bind_assoc, pure_bind, Program.uses_perform_bind]
  exact ⟨by simp [TeeCall.Within, TeeCall.pointers], fun opened => ⟨data, fun read =>
    ⟨by simp [TeeCall.Within, TeeCall.pointers], fun closed => trivial⟩⟩⟩

theorem taOverwriteCoilWithData_within (newCoilData : List UInt8) (newCoilDataLen : Nat) :
    (taOverwriteCoilWithData newCoilData newCoilDataLen).Uses (TeeCall.Within pointers) := by
  simp [taOverwriteCoilWithData, taCreatePersistentObject, taClosePersistentObject,
    TeeCall.Within, TeeCall.pointers]

end Routines

section References
variable {request : Invocation}

theorem references_getAllCoilData (command : request.nCommandID = CommandId.getAllCoilData) :
    request.references = [request.pParams.p0.buffer] := by
  simp [Invocation.references, usages, command, TeeParams.toList, Usage.isMemory]

theorem references_getDataByCoilAddress
    (command : request.nCommandID = CommandId.getDataByCoilAddress) :
    request.references = [request.pParams.p1.buffer] := by
  simp [Invocation.references, usages, command, TeeParams.toList, Usage.isMemory,
    CommandId.getAllCoilData, CommandId.getDataByCoilAddress]

theorem references_setDataByCoilAddress
    (command : request.nCommandID = CommandId.setDataByCoilAddress) :
    request.references = [request.pParams.p1.buffer, request.pParams.p2.buffer] := by
  simp [Invocation.references, usages, command, TeeParams.toList, Usage.isMemory,
    CommandId.getAllCoilData, CommandId.getDataByCoilAddress, CommandId.setDataByCoilAddress]

theorem references_verifyCoilData (command : request.nCommandID = CommandId.verifyCoilData) :
    request.references = [request.pParams.p0.buffer, request.pParams.p1.buffer] := by
  simp [Invocation.references, usages, command, TeeParams.toList, Usage.isMemory,
    CommandId.getAllCoilData, CommandId.getDataByCoilAddress, CommandId.setDataByCoilAddress,
    CommandId.verifyCoilData]

theorem references_signCoilData (command : request.nCommandID = CommandId.signCoilData) :
    request.references = [request.pParams.p0.buffer, request.pParams.p1.buffer] := by
  simp [Invocation.references, usages, command, TeeParams.toList, Usage.isMemory,
    CommandId.getAllCoilData, CommandId.getDataByCoilAddress, CommandId.setDataByCoilAddress,
    CommandId.verifyCoilData, CommandId.signCoilData]

/-- A command reads and writes only behind the parameters that it uses as memory. -/
theorem program_within (seed : Seed) (request : Invocation) :
    (request.program seed).Uses (TeeCall.Within request.references) := by
  have dispatch := program_dispatch seed request
  generalize request.program seed = program at dispatch ⊢
  cases dispatch with
  | seedCoil command =>
    exact .bind (taOverwriteCoilWithData_within _ _) fun res => Program.uses_pure _
  | getAllCoilData command =>
    rw [references_getAllCoilData command]
    refine .bind (taGetAllCoilDataUnpacked_within _ _ _ ?_) fun read => Program.uses_pure _
    simp [Buffer.pointers]
  | getDataByCoilAddress command =>
    rw [references_getDataByCoilAddress command]
    refine .bind (taGetAllCoilDataUnpacked_within _ _ _ ?_) fun read => ?_
    · simp [Buffer.pointers]
    · refine .bind (taSign_within _ _ _ _ ?_ ?_) fun signed => Program.uses_pure _ <;>
        simp [Buffer.pointers]
  | setDataByCoilAddress command =>
    rw [references_setDataByCoilAddress command]
    refine .bind (taVerify_within _ _ _ _ _ ?_ ?_) fun verified => ?_
    · simp [Buffer.pointers]
    · simp
    · obtain ⟨res, signatureVerified⟩ := verified
      simp only
      split
      · exact Program.uses_pure _
      · refine .bind (taGetAllCoilDataUnpacked_within _ _ _ ?_) fun read => ?_
        · simp [Buffer.pointers]
        · exact .bind (taOverwriteCoilWithData_within _ _) fun written => Program.uses_pure _
  | verifyCoilData command =>
    rw [references_verifyCoilData command]
    refine .bind (taVerify_within _ _ _ _ _ ?_ ?_) fun verified => Program.uses_pure _ <;>
      simp [Buffer.pointers]
  | signCoilData command =>
    rw [references_signCoilData command]
    refine .bind (taSign_within _ _ _ _ ?_ ?_) fun signed => Program.uses_pure _ <;>
      simp [Buffer.pointers]
  | unknown command => exact Program.uses_pure _

end References

section EntryPoint
variable (env : Environment) (seed : Seed) (s : Tee) (request : Invocation)

/-- An invocation that is refused, with no parameter address touched, unless it is well
typed. -/
def RejectsIllTyped : Prop :=
  ¬ WellTyped request.nCommandID request.nParamTypes →
    (env.invoke seed request s).1.1 = teeErrorBadParameters ∧
      (env.invoke seed request s).2.store = s.store ∧
      ∀ event ∈ env.calls seed s request, event.request.pointers = []

/-- The command word alone decides what an invocation does: the type word changes
nothing, an unknown command is refused without a call, and a known one touches only
the addresses of the parameters that it uses as memory. -/
theorem command_word_decides :
    (∀ nParamTypes, let retyped := { request with nParamTypes := nParamTypes }
      env.invoke seed retyped s = env.invoke seed request s ∧
        env.calls seed s retyped = env.calls seed s request) ∧
      ((env.invoke seed request s).1.1 = teeErrorBadParameters ↔
        request.nCommandID ∉ CommandId.all) ∧
      (request.nCommandID ∉ CommandId.all →
        env.calls seed s request = [] ∧ (env.invoke seed request s).2.store = s.store ∧
          (env.invoke seed request s).1.2 = request.pParams) ∧
      ∀ event ∈ env.calls seed s request, ∀ pointer ∈ event.request.pointers,
        pointer ∈ request.references := by
  refine ⟨?_, ?_, ?_, ?_⟩
  · intro nParamTypes retyped
    rw [invoke_eq, invoke_eq]
    exact ⟨rfl, rfl⟩
  · have apart : teeSuccess ≠ teeErrorBadParameters := by decide
    constructor
    · intro refused known
      rw [(invoke_effect env seed request s).succeeds known] at refused
      exact apart refused
    · intro unknown
      rw [invoke_eq, program_unknown seed unknown]
      rfl
  · intro unknown
    rw [Environment.calls, invoke_eq, program_unknown seed unknown]
    exact ⟨rfl, rfl, rfl⟩
  · intro event made
    exact (program_within seed request).trace env.handler _ made

/-- A signing whose second parameter is a value of two words. -/
def Invocation.signIllTyped : Invocation :=
  { Invocation.signCoil (message 1 7) with nParamTypes := 0x35 }

/-- The ill-typed signing does what the well-typed one does, behind its two addresses, and
a command that does not exist makes no call. -/
theorem command_word_decides_shipped :
    let s := Tee.holding [0x00]
    let request := Invocation.signCoil (message 1 7)
    Environment.reference.calls .shipped s .signIllTyped =
        Environment.reference.calls .shipped s request ∧
      (∀ event ∈ Environment.reference.calls .shipped s request,
        ∀ pointer ∈ event.request.pointers, pointer = 1 ∨ pointer = 2) ∧
      Environment.reference.calls .shipped s (.plain 0) = [] := by
  intro s request
  obtain ⟨retyped, _, _, within⟩ := command_word_decides .reference .shipped s request
  obtain ⟨_, _, unknown, _⟩ := command_word_decides .reference .shipped s (.plain 0)
  refine ⟨(retyped 0x35).2, ?_, (unknown (by decide)).1⟩
  intro event made pointer touched
  have addressed := within event made pointer touched
  rw [references_signCoilData (signCoil_command _)] at addressed
  have addresses : pointer ∈ [1, 2] := addressed
  simpa only [List.mem_cons, List.not_mem_nil, or_false] using addresses

/-- A value is taken for a buffer and its length, and success is reported. -/
theorem ill_typed_accepted :
    ¬ RejectsIllTyped .reference .shipped (.holding [0x00]) .signIllTyped := by
  intro rejects
  have signs : SignsBytes .reference .shipped (.holding [0x00]) .signIllTyped (message 1 7) :=
    .inr ⟨rfl, (signCoil_data (message 1 7) (by decide)).symm⟩
  have illTyped : ¬ WellTyped CommandId.signCoilData 0x35 := by decide
  obtain ⟨refused, _⟩ := rejects illTyped
  exact absurd ((signing_outcome signs).1.symm.trans refused) (by decide)

end EntryPoint

end InvCtrl
