import InvCtrl.ClientDiscipline

/-! Spatial safety of the application under the host library. The application checks
neither the type word nor, when it puts a signature down, the capacity; what the host
library declares for each command is what makes every access land where it should. -/
namespace InvCtrl
open Interaction

/-- A pointer and a number of bytes from it on. -/
abbrev Region := UInt32 × Nat

def Covers (regions : List Region) (extent : Region) : Prop :=
  ∃ region ∈ regions, extent.1 = region.1 ∧ extent.2 ≤ region.2

/-- What a call reads behind parameters. -/
def TeeCall.reads : TeeCall → List Region
  | .digestDoFinal _ chunk chunkLen _ => chunk.pointers.map fun pointer => (pointer, chunkLen)
  | .asymmetricVerifyDigest _ _ _ signature signatureLen =>
    signature.pointers.map fun pointer => (pointer, signatureLen)
  | _ => []

/-- What a call writes behind parameters. -/
def TeeCall.writes : TeeCall → List Region
  | .readObjectData _ buffer size => buffer.pointers.map fun pointer => (pointer, size)
  | .storeByte pointer offset _ => [(pointer, offset + 1)]
  | _ => []

structure TeeCall.Inside (readable writable : List Region) (call : TeeCall) : Prop where
  reads : ∀ extent ∈ call.reads, Covers readable extent
  writes : ∀ extent ∈ call.writes, Covers writable extent

/-- What the parameters say that the command uses in this way. -/
def Invocation.regions (request : Invocation) (usage : Usage) : List Region :=
  ((usages request.nCommandID).zip request.pParams.toList).filterMap fun use =>
    if use.1 = usage then some (use.2.buffer, use.2.size.toNat) else none

theorem regions_cover {request : Invocation} {usage : Usage} {param : TeeParam}
    (used : (usage, param) ∈ (usages request.nCommandID).zip request.pParams.toList) :
    Covers (request.regions usage) (param.buffer, param.size.toNat) :=
  ⟨_, List.mem_filterMap.mpr ⟨_, used, if_pos rfl⟩, rfl, Nat.le_refl _⟩

theorem Covers.shorter {regions : List Region} {pointer : UInt32} {length limit : Nat}
    (covers : Covers regions (pointer, limit)) (fits : length ≤ limit) :
    Covers regions (pointer, length) := by
  obtain ⟨region, member, same, within⟩ := covers
  exact ⟨region, member, same, fits.trans within⟩

/-- Inside, but for the stores of the copy loop. -/
def TeeCall.KeepsTo (readable writable : List Region) (call : TeeCall) : Prop :=
  call.Storeless → call.Inside readable writable

section Routines
variable {readable writable : List Region}

theorem TeeCall.Inside.keeps {call : TeeCall} (inside : call.Inside readable writable) :
    call.KeepsTo readable writable := fun _ => inside

theorem keepsTo_none {call : TeeCall} (reads : call.reads = []) (writes : call.writes = []) :
    call.KeepsTo readable writable := by
  refine TeeCall.Inside.keeps ⟨?_, ?_⟩
  · rw [reads]
    exact fun extent member => absurd member List.not_mem_nil
  · rw [writes]
    exact fun extent member => absurd member List.not_mem_nil

theorem keepsTo_store (pointer : UInt32) (offset : Nat) (value : UInt8) :
    TeeCall.KeepsTo readable writable (.storeByte pointer offset value) := fun none => none.elim

/-- A buffer of the application, or a parameter that covers what is read or written. -/
def Buffer.CoveredBy (regions : List Region) (length : Nat) (buffer : Buffer) : Prop :=
  ∀ pointer ∈ buffer.pointers, Covers regions (pointer, length)

theorem coveredBy_stack (regions : List Region) (length : Nat) (bytes : List UInt8) :
    (Buffer.stack bytes).CoveredBy regions length :=
  fun _ member => absurd member List.not_mem_nil

theorem coveredBy_shared {regions : List Region} {pointer : UInt32} {length : Nat}
    (covers : Covers regions (pointer, length)) :
    (Buffer.shared pointer).CoveredBy regions length := by
  intro other member
  obtain rfl := List.mem_singleton.mp member
  exact covers

theorem Buffer.CoveredBy.map {regions : List Region} {length : Nat} {buffer : Buffer}
    (covered : buffer.CoveredBy regions length) :
    ∀ extent ∈ buffer.pointers.map fun pointer => (pointer, length), Covers regions extent := by
  intro extent member
  obtain ⟨pointer, own, rfl⟩ := List.mem_map.mp member
  exact covered pointer own

theorem keepsTo_readObjectData (object : Handle) {buffer : Buffer} {size : Nat}
    (covered : buffer.CoveredBy writable size) :
    TeeCall.KeepsTo readable writable (.readObjectData object buffer size) :=
  TeeCall.Inside.keeps ⟨fun _ member => absurd member List.not_mem_nil, covered.map⟩

theorem keepsTo_digestDoFinal (operation : Handle) {chunk : Buffer} {chunkLen : Nat} (hashLen : Nat)
    (covered : chunk.CoveredBy readable chunkLen) :
    TeeCall.KeepsTo readable writable (.digestDoFinal operation chunk chunkLen hashLen) :=
  TeeCall.Inside.keeps ⟨covered.map, fun _ member => absurd member List.not_mem_nil⟩

theorem keepsTo_verifyDigest (operation : Handle) (params : List Attribute) (digest : List UInt8)
    {signature : Buffer} {signatureLen : Nat} (covered : signature.CoveredBy readable signatureLen) :
    TeeCall.KeepsTo readable writable
      (.asymmetricVerifyDigest operation params digest signature signatureLen) :=
  TeeCall.Inside.keeps ⟨covered.map, fun _ member => absurd member List.not_mem_nil⟩

theorem createKey_keepsTo (size : Nat) (keyType : KeyType) (attrs : List Attribute)
    (handle : Handle) :
    (createKey size keyType attrs handle).Uses (TeeCall.KeepsTo readable writable) := by
  simp only [createKey, taAllocateTransientObject, taPopulateTransientObject, bind_assoc,
    pure_bind, Program.uses_perform_bind]
  exact ⟨keepsTo_none rfl rfl, fun _ => ⟨keepsTo_none rfl rfl, fun _ => trivial⟩⟩

theorem taDigestAndKeys_keepsTo {dataToSign : Buffer} {dataLen : Nat}
    (data : dataToSign.CoveredBy readable dataLen) :
    (taDigestAndKeys dataToSign dataLen).Uses (TeeCall.KeepsTo readable writable) := by
  simp only [taDigestAndKeys, taAllocateOperation, taDigestDoFinal, bind_assoc, pure_bind,
    Program.uses_perform_bind]
  refine ⟨keepsTo_none rfl rfl, fun residue => ⟨keepsTo_none rfl rfl, fun allocated =>
    ⟨keepsTo_digestDoFinal _ _ data, fun digest => ?_⟩⟩⟩
  refine .bind (createKey_keepsTo ..) fun publicKey => ?_
  exact .bind (createKey_keepsTo ..) fun privateKey => Program.uses_pure _

theorem armOperation_keepsTo (operation key : Handle) (mode : OperationMode) :
    (armOperation operation key mode).Uses (TeeCall.KeepsTo readable writable) := by
  simp only [armOperation, taAllocateOperation, taSetOperationKey, taFreeTransientObject,
    bind_assoc, pure_bind, Program.uses_perform_bind]
  exact ⟨keepsTo_none rfl rfl, fun _ => ⟨keepsTo_none rfl rfl, fun _ =>
    ⟨keepsTo_none rfl rfl, fun _ => trivial⟩⟩⟩

theorem taSign_keepsTo {dataToSign : Buffer} {dataLen : Nat} (signaturePtr signatureLen : UInt32)
    (data : dataToSign.CoveredBy readable dataLen) :
    (taSign dataToSign dataLen signaturePtr signatureLen).Uses
      (TeeCall.KeepsTo readable writable) :=
  taSign_uses _ _ _ _ (taDigestAndKeys_keepsTo data) armOperation_keepsTo
    (fun _ _ _ _ => keepsTo_none rfl rfl) (fun _ _ => keepsTo_store _ _ _)
    fun _ => keepsTo_none rfl rfl

theorem taVerify_keepsTo {dataToSign : Buffer} {dataLen : Nat} {signaturePtr signatureLen : UInt32}
    (signatureVerified : Int32) (data : dataToSign.CoveredBy readable dataLen)
    (signature : Covers readable (signaturePtr, signatureLen.toNat)) :
    (taVerify dataToSign dataLen signaturePtr signatureLen signatureVerified).Uses
      (TeeCall.KeepsTo readable writable) :=
  taVerify_uses _ _ _ _ _ (taDigestAndKeys_keepsTo data) armOperation_keepsTo
    (fun _ _ _ => keepsTo_verifyDigest _ _ _ (coveredBy_shared signature))
    fun _ => keepsTo_none rfl rfl

theorem taGetAllCoilDataUnpacked_keepsTo {buffer : Buffer} {size : Nat} (count : UInt32)
    (covered : buffer.CoveredBy writable size) :
    (taGetAllCoilDataUnpacked buffer size count).Uses (TeeCall.KeepsTo readable writable) := by
  simp only [taGetAllCoilDataUnpacked, taOpenPersistentObject, taReadPersistentObject,
    taClosePersistentObject, bind_assoc, pure_bind, Program.uses_perform_bind]
  exact ⟨keepsTo_none rfl rfl, fun opened => ⟨keepsTo_readObjectData _ covered, fun read =>
    ⟨keepsTo_none rfl rfl, fun closed => trivial⟩⟩⟩

theorem taOverwriteCoilWithData_keepsTo (newCoilData : List UInt8) (newCoilDataLen : Nat) :
    (taOverwriteCoilWithData newCoilData newCoilDataLen).Uses
      (TeeCall.KeepsTo readable writable) := by
  simp only [taOverwriteCoilWithData, taCreatePersistentObject, taClosePersistentObject,
    bind_assoc, pure_bind, Program.uses_perform_bind]
  exact ⟨keepsTo_none rfl rfl, fun created => ⟨keepsTo_none rfl rfl, fun closed => trivial⟩⟩

end Routines

section Application
variable {request : Invocation} (seed : Seed)

theorem region_of (usage : Usage) (param : TeeParam) {layout : List Usage}
    (laidOut : usages request.nCommandID = layout)
    (used : (usage, param) ∈ layout.zip request.pParams.toList) :
    Covers (request.regions usage) (param.buffer, param.size.toNat) :=
  regions_cover (laidOut ▸ used)

/-- Whatever calls fail, each command keeps to the parameters of its layout. -/
theorem program_keepsTo :
    (request.program seed).Uses
      (TeeCall.KeepsTo (request.regions .readsMemory) (request.regions .writesMemory)) := by
  have dispatch := program_dispatch seed request
  generalize request.program seed = program at dispatch ⊢
  cases dispatch with
  | seedCoil seeding =>
    exact .bind (taOverwriteCoilWithData_keepsTo _ _) fun res => Program.uses_pure _
  | getAllCoilData gettingAll =>
    have layout : usages request.nCommandID = [.writesMemory, .writesValue, .unused, .unused] :=
      (congrArg usages gettingAll).trans rfl
    have buffer := region_of .writesMemory request.pParams.p0 layout List.mem_cons_self
    exact .bind (taGetAllCoilDataUnpacked_keepsTo _ (coveredBy_shared buffer))
      fun read => Program.uses_pure _
  | getDataByCoilAddress getting =>
    refine .bind (taGetAllCoilDataUnpacked_keepsTo _ (coveredBy_stack _ _ _)) fun read => ?_
    exact .bind (taSign_keepsTo _ _ (coveredBy_stack _ _ _)) fun signed => Program.uses_pure _
  | setDataByCoilAddress setting =>
    have layout : usages request.nCommandID =
        [.readsValue, .readsMemory, .readsMemory, .writesValue] :=
      (congrArg usages setting).trans rfl
    have data := region_of .readsMemory request.pParams.p1 layout
      (by simp [TeeParams.toList])
    have signature := region_of .readsMemory request.pParams.p2 layout
      (by simp [TeeParams.toList])
    refine .bind (taVerify_keepsTo _ (coveredBy_shared data) signature) fun verified => ?_
    obtain ⟨res, signatureVerified⟩ := verified
    simp only
    split
    · exact Program.uses_pure _
    · refine .bind (taGetAllCoilDataUnpacked_keepsTo _ (coveredBy_stack _ _ _)) fun read => ?_
      exact .bind (taOverwriteCoilWithData_keepsTo _ _) fun written => Program.uses_pure _
  | verifyCoilData verifying =>
    have layout : usages request.nCommandID =
        [.readsMemory, .readsMemory, .writesValue, .unused] :=
      (congrArg usages verifying).trans rfl
    have data := region_of .readsMemory request.pParams.p0 layout List.mem_cons_self
    have signature := region_of .readsMemory request.pParams.p1 layout
      (by simp [TeeParams.toList])
    exact .bind (taVerify_keepsTo _ (coveredBy_shared data) signature)
      fun verified => Program.uses_pure _
  | signCoilData signing =>
    have layout : usages request.nCommandID = [.readsMemory, .writesMemory, .unused, .unused] :=
      (congrArg usages signing).trans rfl
    have data := region_of .readsMemory request.pParams.p0 layout List.mem_cons_self
    exact .bind (taSign_keepsTo _ _ (coveredBy_shared data)) fun signed => Program.uses_pure _
  | unknown other => exact Program.uses_pure _

variable (env : Environment) (s : Tee)

theorem signing_below (signing : Signing request.nCommandID) {made : TeeEvent}
    (member : made ∈ env.calls seed s request) :
    made.request.StoresBelow request.pParams.p1.buffer 512 := by
  have signs : ∃ m, SignsBytes env seed s request m := by
    rcases signing with getting | signing
    · exact ⟨_, .inl ⟨getting, rfl⟩⟩
    · exact ⟨_, .inr ⟨signing, rfl⟩⟩
  obtain ⟨m, signs⟩ := signs
  have below := signing_stores signs member
  obtain ⟨_, _, outcome⟩ := signing_outcome signs
  have short : (env.invoke seed request s).1.2.p1.b.toNat ≤ 512 := by
    rcases outcome with ⟨length, _⟩ | ⟨length, _⟩
    · rw [length]
      decide
    · rw [length]
      decide
  exact below.mono short

theorem program_storeless (other : ¬ Signing request.nCommandID) :
    (request.program seed).Uses TeeCall.Storeless := by
  have verifies (dataToSign : Buffer) (dataLen : Nat) (signaturePtr signatureLen : UInt32)
      (signatureVerified : Int32) :
      (taVerify dataToSign dataLen signaturePtr signatureLen signatureVerified).Uses
        TeeCall.Storeless := by
    refine taVerify_uses _ _ _ _ _ ?_ (fun operation key mode => ?_) (fun _ _ _ => trivial)
      fun _ => trivial
    · exact (taDigestAndKeys_quiet _ _).mono fun _ => TeeCall.Quiet.storeless
    · exact (armOperation_quiet _ _ _).mono fun _ => TeeCall.Quiet.storeless
  have overwrites (newCoilData : List UInt8) (newCoilDataLen : Nat) :
      (taOverwriteCoilWithData newCoilData newCoilDataLen).Uses TeeCall.Storeless := by
    simp [taOverwriteCoilWithData, taCreatePersistentObject, taClosePersistentObject,
      TeeCall.Storeless]
  have dispatch := program_dispatch seed request
  generalize request.program seed = program at dispatch ⊢
  cases dispatch with
  | seedCoil seeding =>
    exact .bind (overwrites _ _) fun res => Program.uses_pure _
  | getAllCoilData gettingAll =>
    exact .bind (taGetAllCoilDataUnpacked_storeless _ _ _) fun read => Program.uses_pure _
  | setDataByCoilAddress setting =>
    refine .bind (verifies ..) fun verified => ?_
    obtain ⟨res, signatureVerified⟩ := verified
    simp only
    split
    · exact Program.uses_pure _
    · refine .bind (taGetAllCoilDataUnpacked_storeless _ _ _) fun read => ?_
      exact .bind (overwrites _ _) fun written => Program.uses_pure _
  | verifyCoilData verifying =>
    exact .bind (verifies ..) fun verified => Program.uses_pure _
  | getDataByCoilAddress getting => exact absurd (.inl getting) other
  | signCoilData signing => exact absurd (.inr signing) other
  | unknown other => exact Program.uses_pure _

/-- With room for the scratch array where it signs, a command stays inside the parameters
of its layout: it reads those it reads and writes those it writes. -/
theorem calls_inside (room : Signing request.nCommandID → 512 ≤ request.pParams.p1.size.toNat)
    {made : TeeEvent} (member : made ∈ env.calls seed s request) :
    made.request.Inside (request.regions .readsMemory) (request.regions .writesMemory) := by
  have keeps := (program_keepsTo seed).trace env.handler (request.supply s) member
  by_cases signing : Signing request.nCommandID
  case neg => exact keeps ((program_storeless seed signing).trace env.handler _ member)
  have below := signing_below seed env s signing member
  have written : Covers (request.regions .writesMemory)
      (request.pParams.p1.buffer, request.pParams.p1.size.toNat) := by
    rcases signing with getting | signing
    · have layout : usages request.nCommandID =
          [.readsValue, .writesMemory, .writesValue, .unused] :=
        (congrArg usages getting).trans rfl
      exact region_of _ _ layout (by simp [TeeParams.toList])
    · have layout : usages request.nCommandID =
          [.readsMemory, .writesMemory, .unused, .unused] :=
        (congrArg usages signing).trans rfl
      exact region_of _ _ layout (by simp [TeeParams.toList])
  obtain ⟨call, reply⟩ := made
  cases call with
  | storeByte pointer offset value =>
    obtain ⟨rfl, inside⟩ := below
    refine ⟨fun _ none => absurd none List.not_mem_nil, fun extent stored => ?_⟩
    obtain rfl := List.mem_singleton.mp stored
    exact written.shorter (Nat.le_trans inside (room signing))
  | _ => exact keeps trivial

end Application

section Host

/-- The memory that a parameter of an operation declares, where it is mapped. -/
def TeecParam.region (mapped : TeeParam) : TeecParam → Option Region
  | .memrefTempOutput _ size => some (mapped.buffer, size.toNat)
  | _ => Option.none

/-- What an operation declares for the parameters that the command uses in this way. -/
def Link.regions (link : Link) (commandID : UInt32) (params : TeecParams) (usage : Usage) :
    List Region :=
  ((usages commandID).zip ((link.words params).toList.zip params.toList)).filterMap fun use =>
    if use.1 = usage then use.2.2.region use.2.1 else none

/-- The application, asked for this command in any state, stays inside what the caller
has declared for it. -/
def Platform.KeepsInside (platform : Platform) : TeecCall → Prop
  | .invokeCommand commandID paramTypes params => ∀ w : World,
    ∀ made ∈ platform.env.calls platform.seed w.tee
        (platform.request commandID paramTypes params w),
      made.request.Inside (platform.link.regions commandID params .readsMemory)
        (platform.link.regions commandID params .writesMemory)
  | _ => True

theorem usages_four (commandID : UInt32) :
    ∃ first second third fourth, usages commandID = [first, second, third, fourth] := by
  unfold usages
  split_ifs <;> exact ⟨_, _, _, _, rfl⟩

theorem region_word (link : Link) (i : Fin 4) {use usage : Usage} {param : TeecParam}
    (memory : usage.isMemory = true) (fits : use.Fits param) :
    (if use = usage then
        some ((link.word i param).buffer, (link.word i param).size.toNat) else none) =
      if use = usage then param.region (link.word i param) else none := by
  split
  · next same =>
    subst same
    cases use <;> cases param <;> first | rfl | exact fits.elim | cases memory
  · rfl

theorem request_regions (platform : Platform) {commandID : UInt32} {params : TeecParams}
    (agrees : Agrees commandID params) (paramTypes : UInt32) (w : World) {usage : Usage}
    (memory : usage.isMemory = true) :
    (platform.request commandID paramTypes params w).regions usage =
      platform.link.regions commandID params usage := by
  obtain ⟨first, second, third, fourth, layout⟩ := usages_four commandID
  obtain ⟨fits, _⟩ := agrees
  rw [layout] at fits
  simp only [TeecParams.toList, List.zip_cons_cons, List.zip_nil_right, List.forall_mem_cons]
    at fits
  obtain ⟨fits0, fits1, fits2, fits3, _⟩ := fits
  have told : (platform.request commandID paramTypes params w).pParams =
      platform.link.words params := rfl
  have command : (platform.request commandID paramTypes params w).nCommandID = commandID := rfl
  simp only [Invocation.regions, Link.regions, command, told, layout, Link.words,
    TeeParams.toList, TeecParams.toList, List.zip_cons_cons, List.zip_nil_right, List.filterMap_cons,
    List.filterMap_nil, region_word _ _ memory fits0, region_word _ _ memory fits1,
    region_word _ _ memory fits2, region_word _ _ memory fits3]

theorem keepsInside_of_agrees (platform : Platform) {commandID : UInt32} {params : TeecParams}
    (agrees : Agrees commandID params) :
    platform.KeepsInside (.invokeCommand commandID params.paramTypes params) := by
  intro w made member
  have room : Signing commandID → 512 ≤ (platform.link.words params).p1.size.toNat := by
    intro signing
    have large := agrees.room signing
    cases second : params.p1 with
    | none | valueInout =>
      rw [second] at large
      exact absurd (show 512 ≤ (0 : UInt32).toNat from large) (by decide)
    | memrefTempOutput buffer size =>
      rw [second] at large
      rw [Link.words, second]
      exact large
  have inside := calls_inside platform.seed platform.env w.tee room member
  rwa [request_regions platform agrees _ w rfl, request_regions platform agrees _ w rfl] at inside

/-- Whatever the agent is asked to do and whatever the client API replies: the application
keeps inside what the host library has declared to it, in any state of the machine and
whichever of its own calls fail. -/
theorem agent_memory_safe (platform : Platform) (calls : List AgentCall) :
    (client platform.seed calls).Uses platform.KeepsInside := by
  have replies (request : TeecCall) : Nonempty (TeecCall.Reply request) :=
    ⟨(Platform.reference.handler request (.holding [])).1⟩
  refine ((client_settles platform.seed calls).obeys Client.start ⟨rfl, rfl⟩).uses ?_
  intro account request reply allowed
  cases request with
  | invokeCommand commandID paramTypes params =>
    obtain ⟨_, _, rfl, agrees⟩ := allowed
    exact keepsInside_of_agrees platform agrees
  | _ => trivial

end Host

end InvCtrl
