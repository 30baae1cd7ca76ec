import InvCtrl.Outcomes
import InvCtrl.Register

/-! The handles a session is left with. Every signature operation allocates two
operations and two keys and frees one of each, so each such command leaves one
operation and one key behind; the other commands leave nothing. -/
namespace InvCtrl
open Interaction Execution

namespace Tee

def liveOperations (s : Tee) : Set Nat := {id | s.operations id ≠ none}

def liveKeys (s : Tee) : Set Nat :=
  {id | ∃ objectType attributes, s.objects id = some (.transient objectType attributes)}

def openObjects (s : Tee) : Set Nat :=
  {id | ∃ objectID flags position, s.objects id = some (.persistent objectID flags position)}

/-- No handle is in use that has not been handed out yet. -/
structure Numbered (s : Tee) : Prop where
  objects : ∀ id, s.next ≤ id → s.objects id = none
  operations : ∀ id, s.next ≤ id → s.operations id = none

end Tee

/-- The same handles are live, and none is handed out twice. -/
structure SameHandles (s t : Tee) : Prop where
  objects : t.objects = s.objects
  operations : t.operations = s.operations
  next : s.next ≤ t.next

theorem SameHandles.refl (s : Tee) : SameHandles s s := ⟨rfl, rfl, Nat.le_refl _⟩

theorem SameHandles.trans {s t u : Tee} (first : SameHandles s t) (second : SameHandles t u) :
    SameHandles s u :=
  ⟨second.objects.trans first.objects, second.operations.trans first.operations,
    first.next.trans second.next⟩

theorem SameHandles.numbered {s t : Tee} (same : SameHandles s t) (numbered : s.Numbered) :
    t.Numbered := by
  constructor
  · intro id beyond
    rw [same.objects]
    exact numbered.objects id (same.next.trans beyond)
  · intro id beyond
    rw [same.operations]
    exact numbered.operations id (same.next.trans beyond)

section Storage
variable {env : Environment} {s : Tee}

theorem update_absent {β : Type} {f : Nat → Option β} {id : Nat} (absent : f id = none) :
    Function.update f id none = f := by
  rw [← absent, Function.update_eq_self]

theorem update_close (numbered : s.Numbered) (object : Option ObjectState) :
    Function.update (Function.update s.objects s.next object) s.next none = s.objects := by
  rw [Function.update_idem, update_absent (numbered.objects s.next (Nat.le_refl _))]

theorem taOverwriteCoilWithData_same (storage : env.StorageSucceeds) (numbered : s.Numbered)
    (newCoilData : List UInt8) (newCoilDataLen : Nat) :
    SameHandles s ((taOverwriteCoilWithData newCoilData newCoilDataLen).run env.handler s).2 := by
  have closed := update_close numbered
  constructor <;>
    simp [taOverwriteCoilWithData, taCreatePersistentObject, taClosePersistentObject,
      Environment.handler, Environment.createPersistentObject, Environment.closeObject,
      storage.result, Tee.addObject, Tee.setObject, Tee.setStore, Tee.storageCall, closed]

theorem taGetAllCoilDataUnpacked_same (storage : env.StorageSucceeds) (numbered : s.Numbered)
    (buffer : Buffer) (size : Nat) (count : UInt32) :
    SameHandles s ((taGetAllCoilDataUnpacked buffer size count).run env.handler s).2 := by
  have closed := update_close numbered
  by_cases opens : env.OpensCoil s
  · have opened := openPersistentObject_opened opens ⟨true, false, false⟩
    constructor <;> cases buffer <;>
      simp [taGetAllCoilDataUnpacked, taOpenPersistentObject, taReadPersistentObject,
        taClosePersistentObject, Environment.handler, opened, Environment.readObjectData,
        Environment.closeObject, storage.result, Tee.addObject, Tee.setObject, Tee.setMemory,
        Tee.storageCall, closed]
  · obtain ⟨res, failed, unopened⟩ := openPersistentObject_unopened opens ⟨true, false, false⟩
    constructor <;>
      simp [taGetAllCoilDataUnpacked, taOpenPersistentObject, taReadPersistentObject,
        taClosePersistentObject, Environment.handler, unopened, failed, Environment.readObjectData,
        Environment.closeObject, storage.result, Tee.object, Tee.setObject, Tee.storageCall]

end Storage

/-- One more operation and one more key are live; the persistent objects are the same. -/
structure LeaksOne (s t : Tee) : Prop where
  operation : ∃ id state, s.next ≤ id ∧ id < t.next ∧
    t.operations = Function.update s.operations id (some state)
  key : ∃ id objectType attributes, s.next ≤ id ∧ id < t.next ∧
    t.objects = Function.update s.objects id (some (.transient objectType attributes))

theorem leaksOne_of_tables {s t : Tee} (key : Nat) (objectType : KeyType)
    (attributes : Option (List Attribute)) (atLeast : s.next ≤ key) (atMost : key ≤ s.next + 2)
    (objects : t.objects =
      Function.update s.objects key (some (.transient objectType attributes)))
    (operations : t.operations =
      Function.update s.operations s.next (some ⟨.sha256, .digest, none⟩))
    (next : s.next + 4 ≤ t.next) : LeaksOne s t := by
  constructor
  case operation => exact ⟨s.next, _, Nat.le_refl _, by omega, operations⟩
  case key => exact ⟨key, objectType, attributes, atLeast, by omega, objects⟩

theorem update_freed {s : Tee} (numbered : s.Numbered) (first second : OperationState) :
    Function.update (Function.update (Function.update s.operations s.next (some first))
      (s.next + 3) (some second)) (s.next + 3) none =
        Function.update s.operations s.next (some first) := by
  have absent : Function.update s.operations s.next (some first) (s.next + 3) = none := by
    rw [Function.update_of_ne (by omega)]
    exact numbered.operations _ (by omega)
  rw [Function.update_idem, update_absent absent]

theorem LeaksOne.after {s t u : Tee} (same : SameHandles s t) (leaks : LeaksOne t u) :
    LeaksOne s u := by
  obtain ⟨⟨id, state, low, high, operations⟩, ⟨key, objectType, attributes, keyLow, keyHigh,
    objects⟩⟩ := leaks
  rw [same.operations] at operations
  rw [same.objects] at objects
  exact ⟨⟨id, state, same.next.trans low, high, operations⟩,
    ⟨key, objectType, attributes, same.next.trans keyLow, keyHigh, objects⟩⟩

theorem LeaksOne.before {s t u : Tee} (leaks : LeaksOne s t) (same : SameHandles t u) :
    LeaksOne s u := by
  obtain ⟨⟨id, state, low, high, operations⟩, ⟨key, objectType, attributes, keyLow, keyHigh,
    objects⟩⟩ := leaks
  rw [← same.operations] at operations
  rw [← same.objects] at objects
  exact ⟨⟨id, state, low, high.trans_le same.next, operations⟩,
    ⟨key, objectType, attributes, keyLow, keyHigh.trans_le same.next, objects⟩⟩

theorem LeaksOne.numbered {s t : Tee} (leaks : LeaksOne s t) (numbered : s.Numbered) :
    t.Numbered := by
  obtain ⟨⟨id, state, low, high, operations⟩, ⟨key, objectType, attributes, keyLow, keyHigh,
    objects⟩⟩ := leaks
  constructor
  · intro other beyond
    rw [objects, Function.update_of_ne (by omega)]
    exact numbered.objects other (by omega)
  · intro other beyond
    rw [operations, Function.update_of_ne (by omega)]
    exact numbered.operations other (by omega)

theorem LeaksOne.sets {s t : Tee} (leaks : LeaksOne s t) (numbered : s.Numbered) :
    ∃ operation key, operation ∉ s.liveOperations ∧ key ∉ s.liveKeys ∧
      t.liveOperations = insert operation s.liveOperations ∧
      t.liveKeys = insert key s.liveKeys ∧ t.openObjects = s.openObjects := by
  obtain ⟨⟨id, state, low, high, operations⟩, ⟨key, objectType, attributes, keyLow, keyHigh,
    objects⟩⟩ := leaks
  have absent := numbered.objects key keyLow
  refine ⟨id, key, ?_, ?_, ?_, ?_, ?_⟩
  · exact fun live => live (numbered.operations id low)
  · rintro ⟨_, _, live⟩
    cases absent.symm.trans live
  · ext other
    by_cases same : other = id
    · simp [Tee.liveOperations, operations, same]
    · simp [Tee.liveOperations, operations, same]
  · ext other
    by_cases same : other = key
    · simp [Tee.liveKeys, objects, same]
    · simp [Tee.liveKeys, objects, same]
  · ext other
    by_cases same : other = key
    · simp [Tee.openObjects, objects, same, absent]
    · simp [Tee.openObjects, objects, same]

section Signatures
variable {env : Environment} (succeeds : env.CryptoSucceeds) (s : Tee)
include succeeds

theorem Environment.CryptoSucceeds.result (call : Nat) :
    (env.cryptography call).result = teeSuccess := succeeds.answers call

theorem createKey_table (keyType : KeyType) (attrs : List Attribute) :
    let r := (createKey maxKeySize keyType attrs .null).run env.handler s
    r.1.2 = .live s.next ∧
      r.2.objects = Function.update s.objects s.next (some (.transient keyType (some attrs))) ∧
      r.2.operations = s.operations ∧ r.2.next = s.next + 1 := by
  intro r
  refine ⟨?_, ?_, ?_, ?_⟩ <;>
    simp [r, createKey, taAllocateTransientObject, taPopulateTransientObject, Environment.handler,
      Environment.allocateTransientObject, Environment.populateTransientObject, succeeds.result,
      Tee.addObject, Tee.cryptoCall, Tee.setObject]

theorem taDigestAndKeys_table (dataToSign : Buffer) (dataLen : Nat) :
    let r := (taDigestAndKeys dataToSign dataLen).run env.handler s
    r.1.1 = .live s.next ∧ r.1.2.2.1 = .live (s.next + 1) ∧ r.1.2.2.2 = .live (s.next + 2) ∧
      r.2.objects = Function.update (Function.update s.objects (s.next + 1)
          (some (.transient .rsaPublicKey (some publicKeyAttrs)))) (s.next + 2)
        (some (.transient .rsaKeypair (some keypairAttrs))) ∧
      r.2.operations = Function.update s.operations s.next (some ⟨.sha256, .digest, none⟩) ∧
      r.2.next = s.next + 3 := by
  intro r
  have digested (t : Tee) (operation : Handle) (hash : List UInt8) :
      let d := ((taDigestDoFinal operation dataToSign dataLen hash 64).run env.handler t).2
      d.objects = t.objects ∧ d.operations = t.operations ∧ d.next = t.next := by
    rcases taDigestDoFinal_cases env t operation dataToSign dataLen hash with
      ⟨_, _, run⟩ | ⟨_, _, run⟩
    · rw [run]
      exact ⟨rfl, rfl, rfl⟩
    · rw [run]
      exact ⟨rfl, rfl, rfl⟩
  simp only [r, taDigestAndKeys, Program.run_bind, Program.run_perform, Program.run_pure,
    Environment.handler, taAllocateOperation_run, succeeds.answers, ↓reduceIte]
  obtain ⟨objects, operations, next⟩ := digested
    (s.cryptoCall.addOperation ⟨.sha256, .digest, none⟩) (.live s.next)
    ((List.range 64).map env.residue)
  generalize (taDigestDoFinal _ _ _ _ _).run env.handler _ = d at objects operations next ⊢
  obtain ⟨first, firstObjects, firstOperations, firstNext⟩ :=
    createKey_table succeeds d.2 .rsaPublicKey publicKeyAttrs
  generalize (createKey _ .rsaPublicKey _ _).run env.handler d.2 = p
    at first firstObjects firstOperations firstNext ⊢
  obtain ⟨second, secondObjects, secondOperations, secondNext⟩ :=
    createKey_table succeeds p.2 .rsaKeypair keypairAttrs
  generalize (createKey _ .rsaKeypair _ _).run env.handler p.2 = q
    at second secondObjects secondOperations secondNext ⊢
  have start : d.2.next = s.next + 1 := next
  refine ⟨trivial, ?_, ?_, ?_, ?_, ?_⟩
  · rw [first, start]
  · rw [second, firstNext, start]
  · rw [secondObjects, firstObjects, firstNext, start, objects]
    rfl
  · rw [secondOperations, firstOperations, operations]
    rfl
  · rw [secondNext, firstNext, start]

theorem armOperation_table (operation : Handle) (mode : OperationMode) (key : Nat)
    (keyType : KeyType) (attrs : List Attribute)
    (populated : s.objects key = some (.transient keyType (some attrs))) :
    let r := (armOperation operation (.live key) mode).run env.handler s
    r.1 = .live s.next ∧ r.2.objects = Function.update s.objects key none ∧
      r.2.operations = Function.update s.operations s.next
        (some ⟨.rsassaPkcs1V15Sha256, mode, some (keyType, attrs)⟩) ∧
      r.2.next = s.next + 1 := by
  intro r
  refine ⟨?_, ?_, ?_, ?_⟩ <;>
    simp [r, armOperation, taAllocateOperation, taSetOperationKey, taFreeTransientObject,
      Environment.handler, Environment.allocateOperation, Environment.setOperationKey,
      succeeds.result, Tee.addOperation, Tee.cryptoCall, Tee.setOperation, Tee.setObject, populated]

omit succeeds in
variable (env) in
theorem taAsymmetricVerifyDigest_same (operation : Handle)
    (params : List Attribute) (digest : List UInt8) (digestLen : Nat) (signature : Buffer)
    (signatureLen : Nat) :
    SameHandles s ((taAsymmetricVerifyDigest operation params digest digestLen signature
      signatureLen).run env.handler s).2 := by
  rw [(taAsymmetricVerifyDigest_cases env s operation params digest digestLen signature
    signatureLen).1]
  exact ⟨rfl, rfl, Nat.le_refl _⟩

omit succeeds in
variable (env) in
theorem taAsymmetricSignDigest_same (operation : Handle)
    (params : List Attribute) (digest : List UInt8) (digestLen : Nat) (out : List UInt8) :
    SameHandles s ((taAsymmetricSignDigest operation params digest digestLen out 512).run
      env.handler s).2 := by
  rcases taAsymmetricSignDigest_cases env s operation params digest digestLen out with
    ⟨_, _, _, run⟩ | ⟨_, _, run⟩
  · rw [run]
    exact ⟨rfl, rfl, Nat.le_refl _⟩
  · rw [run]
    exact ⟨rfl, rfl, Nat.le_refl _⟩

/-- A signature leaves the digest operation and the public key behind. -/
theorem taSign_leaks (numbered : s.Numbered) (dataToSign : Buffer) (dataLen : Nat)
    (signaturePtr signatureLen : UInt32) :
    LeaksOne s ((taSign dataToSign dataLen signaturePtr signatureLen).run env.handler s).2 := by
  obtain ⟨operation, _, key, objects, operations, next⟩ :=
    taDigestAndKeys_table succeeds s dataToSign dataLen
  simp only [taSign, taSignAndVerify, taSignCase_eq, taFreeOperation, bind_assoc, pure_bind,
    Program.run_bind, Program.run_pure, Program.run_perform, Environment.handler,
    taCopySignature_run]
  generalize (taDigestAndKeys dataToSign dataLen).run env.handler s = r
    at operation key objects operations next ⊢
  have populated : r.2.objects (s.next + 2) = some (.transient .rsaKeypair (some keypairAttrs)) := by
    rw [objects, Function.update_self]
  obtain ⟨armed, freed, fresh, counted⟩ :=
    armOperation_table succeeds r.2 r.1.1 .sign (s.next + 2) .rsaKeypair keypairAttrs populated
  rw [key]
  generalize (armOperation _ _ _).run env.handler r.2 = a at armed freed fresh counted ⊢
  have same := taAsymmetricSignDigest_same env a.2 a.1 algoParams r.1.2.1.1 r.1.2.1.2
    (List.replicate 512 0)
  generalize (taAsymmetricSignDigest _ _ _ _ _ _).run env.handler a.2 = d at same ⊢
  rw [next] at fresh counted
  rw [next] at armed
  rw [armed]
  refine leaksOne_of_tables (s.next + 1) .rsaPublicKey (some publicKeyAttrs) (by omega) (by omega)
    ?_ ?_ ?_
  · have absent : Function.update s.objects (s.next + 1)
        (some (.transient .rsaPublicKey (some publicKeyAttrs))) (s.next + 2) = none := by
      rw [Function.update_of_ne (by omega)]
      exact numbered.objects _ (by omega)
    simp only [Tee.setOperation, Tee.setMemory]
    rw [same.objects, freed, objects, Function.update_idem, update_absent absent]
  · simp only [Tee.setOperation, Tee.setMemory]
    rw [same.operations, fresh, operations, update_freed numbered]
  · have grown := same.next
    simp only [Tee.setOperation, Tee.setMemory]
    omega

/-- A verification leaves the digest operation and the private key behind. -/
theorem taVerify_leaks (numbered : s.Numbered) (dataToSign : Buffer) (dataLen : Nat)
    (signaturePtr signatureLen : UInt32) (signatureVerified : Int32) :
    LeaksOne s ((taVerify dataToSign dataLen signaturePtr signatureLen signatureVerified).run
      env.handler s).2 := by
  obtain ⟨operation, key, _, objects, operations, next⟩ :=
    taDigestAndKeys_table succeeds s dataToSign dataLen
  simp only [taVerify, taSignAndVerify, taVerifyCase_eq, taFreeOperation, bind_assoc, pure_bind,
    Program.run_bind, Program.run_pure, Program.run_perform, Environment.handler]
  generalize (taDigestAndKeys dataToSign dataLen).run env.handler s = r
    at operation key objects operations next ⊢
  have populated : r.2.objects (s.next + 1) =
      some (.transient .rsaPublicKey (some publicKeyAttrs)) := by
    rw [objects, Function.update_of_ne (by omega), Function.update_self]
  obtain ⟨armed, freed, fresh, counted⟩ :=
    armOperation_table succeeds r.2 r.1.1 .verify (s.next + 1) .rsaPublicKey publicKeyAttrs populated
  rw [key]
  generalize (armOperation _ _ _).run env.handler r.2 = a at armed freed fresh counted ⊢
  have same := taAsymmetricVerifyDigest_same env a.2 a.1 algoParams r.1.2.1.1 r.1.2.1.2
    (.shared signaturePtr) signatureLen.toNat
  generalize (taAsymmetricVerifyDigest _ _ _ _ _ _).run env.handler a.2 = d at same ⊢
  rw [next] at fresh counted
  rw [next] at armed
  rw [armed]
  refine leaksOne_of_tables (s.next + 2) .rsaKeypair (some keypairAttrs) (by omega) (by omega)
    ?_ ?_ ?_
  · have absent := numbered.objects (s.next + 1) (by omega)
    simp only [Tee.setOperation]
    rw [same.objects, freed, objects, Function.update_comm (by omega), Function.update_idem,
      update_absent absent]
  · simp only [Tee.setOperation]
    rw [same.operations, fresh, operations, update_freed numbered]
  · have grown := same.next
    simp only [Tee.setOperation]
    omega

end Signatures

section Commands
variable {env : Environment} (succeeds : env.Succeeds) (seed : Seed) {s : Tee}
  (numbered : s.Numbered) (request : Invocation)

/-- The commands that sign or verify. -/
def Invocation.Authenticates : Prop :=
  request.nCommandID = CommandId.getDataByCoilAddress ∨
    request.nCommandID = CommandId.setDataByCoilAddress ∨
    request.nCommandID = CommandId.verifyCoilData ∨ request.nCommandID = CommandId.signCoilData

instance : Decidable request.Authenticates := inferInstanceAs (Decidable (_ ∨ _))

theorem supply_same : SameHandles s (request.supply s) := ⟨rfl, rfl, Nat.le_refl _⟩

include succeeds numbered

theorem taSetDataByCoilAddress_leaks (params : TeeParams) :
    LeaksOne s ((taSetDataByCoilAddress seed params).run env.handler s).2 := by
  have leaks := taVerify_leaks succeeds.crypto s numbered (.shared params.p1.buffer)
    params.p1.size.toNat params.p2.buffer params.p2.size 0
  simp only [taSetDataByCoilAddress, Program.run_bind]
  generalize (taVerify _ _ _ _ _).run env.handler s = r at leaks ⊢
  split
  · exact leaks
  · have read := taGetAllCoilDataUnpacked_same succeeds.storage (leaks.numbered numbered)
      (.stack (List.replicate seed.coilData.length 0x00)) seed.coilData.length 0
    simp only [Program.run_bind, Program.run_pure]
    exact (leaks.before read).before (taOverwriteCoilWithData_same succeeds.storage
      (read.numbered (leaks.numbered numbered)) _ _)

/-- A command that signs or verifies leaks one operation and one key. -/
theorem invoke_leaks (authenticates : request.Authenticates) :
    LeaksOne s (env.invoke seed request s).2 := by
  have supplied := supply_same (s := s) request
  have ready := supplied.numbered numbered
  refine LeaksOne.after supplied ?_
  rw [invoke_eq]
  rcases authenticates with getting | setting | verifying | signing
  · rw [program_getDataByCoilAddress seed getting]
    simp only [taGetDataByCoilAddress, Program.run_bind, Program.run_pure]
    have read := taGetAllCoilDataUnpacked_same succeeds.storage ready
      (.stack (List.replicate seed.coilData.length 0x00)) seed.coilData.length 0
    exact LeaksOne.after read (taSign_leaks succeeds.crypto _ (read.numbered ready) _ _ _ _)
  · rw [program_setDataByCoilAddress seed setting]
    exact taSetDataByCoilAddress_leaks succeeds seed ready request.pParams
  · rw [program_verifyCoilData seed verifying]
    simp only [taVerifyCoilDAta, Program.run_bind, Program.run_pure]
    exact taVerify_leaks succeeds.crypto _ ready _ _ _ _ _
  · rw [program_signCoilData seed signing]
    simp only [taSignCoilData, Program.run_bind, Program.run_pure]
    exact taSign_leaks succeeds.crypto _ ready _ _ _ _

/-- Every other command gives back what it obtains. -/
theorem invoke_same (other : ¬ request.Authenticates) :
    SameHandles s (env.invoke seed request s).2 := by
  have supplied := supply_same (s := s) request
  have ready := supplied.numbered numbered
  refine supplied.trans ?_
  rw [invoke_eq]
  have dispatch := program_dispatch seed request
  generalize request.program seed = program at dispatch ⊢
  cases dispatch with
  | seedCoil seeding =>
    simp only [taSeedCoil, Program.run_bind, Program.run_pure]
    exact taOverwriteCoilWithData_same succeeds.storage ready _ _
  | getAllCoilData gettingAll =>
    simp only [taGetAllCoilData, Program.run_bind, Program.run_pure]
    exact taGetAllCoilDataUnpacked_same succeeds.storage ready _ _ _
  | getDataByCoilAddress getting => exact absurd (.inl getting) other
  | setDataByCoilAddress setting => exact absurd (.inr (.inl setting)) other
  | verifyCoilData verifying => exact absurd (.inr (.inr (.inl verifying))) other
  | signCoilData signing => exact absurd (.inr (.inr (.inr signing))) other
  | unknown absent => exact .refl _

end Commands

/-- The same operations, keys and persistent objects are live after a command. -/
structure KeepsHandles (s t : Tee) : Prop where
  operations : t.liveOperations = s.liveOperations
  keys : t.liveKeys = s.liveKeys
  objects : t.openObjects = s.openObjects

theorem SameHandles.keeps {s t : Tee} (same : SameHandles s t) : KeepsHandles s t := by
  constructor
  · simp only [Tee.liveOperations, same.operations]
  · simp only [Tee.liveKeys, same.objects]
  · simp only [Tee.openObjects, same.objects]

theorem LeaksOne.not_keeps {s t : Tee} (leaks : LeaksOne s t) (numbered : s.Numbered) :
    ¬ KeepsHandles s t := by
  intro keeps
  obtain ⟨operation, _, fresh, _, operations, _⟩ := leaks.sets numbered
  refine fresh ?_
  rw [← keeps.operations, operations]
  exact Set.mem_insert _ _

/-- Every command of this history kept the handles that were live before it. -/
def NoLeak (env : Environment) (seed : Seed) (start : Tee)
    (history : History Invocation (TeeResult × TeeParams)) : Prop :=
  ∀ before event after s, history = before ++ event :: after →
    Run (application env seed) start before s → KeepsHandles s (env.invoke seed event.1 s).2

/-- After is what was there before, and these besides, each of them new. -/
structure Added (before after : Set Nat) (more : List Nat) : Prop where
  distinct : more.Nodup
  fresh : ∀ id ∈ more, id ∉ before
  all : after = before ∪ {id | id ∈ more}

theorem Added.refl (before : Set Nat) : Added before before [] := by
  constructor <;> simp

theorem Added.insert {before after : Set Nat} {more : List Nat} (added : Added before after more)
    {id : Nat} (unused : id ∉ after) : Added before (insert id after) (id :: more) := by
  rw [added.all, Set.mem_union, not_or] at unused
  constructor
  case distinct => exact List.nodup_cons.mpr ⟨unused.2, added.distinct⟩
  case fresh => exact List.forall_mem_cons.mpr ⟨unused.1, added.fresh⟩
  case all =>
    ext other
    simp [added.all, or_left_comm]

section Sessions
variable {env : Environment} (succeeds : env.Succeeds) {seed : Seed} {start s : Tee}
  {history : History Invocation (TeeResult × TeeParams)} (numbered : start.Numbered)
include succeeds numbered

theorem run_numbered (run : Run (application env seed) start history s) : s.Numbered := by
  refine run.state_invariant Tee.Numbered numbered fun u request held _ => ?_
  by_cases authenticates : request.Authenticates
  · exact (invoke_leaks succeeds seed held request authenticates).numbered held
  · exact (invoke_same succeeds seed held request authenticates).numbered held

/-- A session leaks no handle exactly if it never signs and never verifies. -/
theorem no_leak_iff (run : Run (application env seed) start history s) :
    NoLeak env seed start history ↔ ∀ event ∈ history, ¬ event.1.Authenticates := by
  constructor
  · intro keeps event member authenticates
    obtain ⟨before, after, split⟩ := List.append_of_mem member
    obtain ⟨u, first, _⟩ := (split ▸ run).split
    have held := run_numbered succeeds numbered first
    exact (invoke_leaks succeeds seed held event.1 authenticates).not_keeps held
      (keeps before event after u split first)
  · intro quiet before event after u split first
    have member : event ∈ history := by
      rw [split]
      exact List.mem_append_right _ List.mem_cons_self
    exact (invoke_same succeeds seed (run_numbered succeeds numbered first) event.1
      (quiet event member)).keeps

/-- Each command of the session that signs or verifies has left one operation and one
key behind that were not live before, and they are all still live. -/
theorem run_leaks (run : Run (application env seed) start history s) :
    ∃ operations keys : List Nat,
      operations.length = history.countP (·.1.Authenticates) ∧
      keys.length = history.countP (·.1.Authenticates) ∧
      Added start.liveOperations s.liveOperations operations ∧
      Added start.liveKeys s.liveKeys keys ∧ s.openObjects = start.openObjects := by
  induction run with
  | nil => exact ⟨[], [], by simp, by simp, .refl _, .refl _, rfl⟩
  | @snoc history u run request allowed ih =>
    obtain ⟨operations, keys, count, counted, live, liveKeys, objects⟩ := ih
    have held := run_numbered succeeds numbered run
    by_cases authenticates : request.Authenticates
    · obtain ⟨operation, key, unused, unheld, moreLive, moreKeys, sameObjects⟩ :=
        (invoke_leaks succeeds seed held request authenticates).sets held
      refine ⟨operation :: operations, key :: keys, ?_, ?_, ?_, ?_, sameObjects.trans objects⟩
      · simp [List.countP_append, authenticates, count]
      · simp [List.countP_append, authenticates, counted]
      · exact moreLive.symm ▸ live.insert unused
      · exact moreKeys.symm ▸ liveKeys.insert unheld
    · have keeps := (invoke_same succeeds seed held request authenticates).keeps
      refine ⟨operations, keys, ?_, ?_, ?_, ?_, keeps.objects.trans objects⟩
      · simp [List.countP_append, authenticates, count]
      · simp [List.countP_append, authenticates, counted]
      · exact keeps.operations.symm ▸ live
      · exact keeps.keys.symm ▸ liveKeys

end Sessions

section Shipped

theorem holding_numbered (coilData : List UInt8) : (Tee.holding coilData).Numbered :=
  ⟨fun _ _ => rfl, fun _ _ => rfl⟩

/-- A session of a seed, a read of the whole object and a command that is none of the six. -/
theorem no_leak_shipped :
    let M := application .reference .shipped
    let requests := [.plain CommandId.seedCoil, .plain CommandId.getAllCoilData, .plain 0]
    NoLeak .reference .shipped (.holding [0x00]) (M.recorded (Tee.holding [0x00]) requests) := by
  intro M requests
  have run := Run.recorded (M := M) (Tee.holding [0x00]) requests
    ⟨trivial, trivial, trivial, trivial⟩
  refine (no_leak_iff reference_succeeds (holding_numbered [0x00]) run).mpr ?_
  intro event member
  have quiet : ∀ request ∈ requests, ¬ request.Authenticates := by decide
  have asked := List.mem_map_of_mem (f := Prod.fst) member
  rw [M.recorded_inputs] at asked
  exact quiet event.1 asked

/-- One signing leaves handles behind. -/
theorem signing_leaks :
    ¬ NoLeak .reference .shipped (.holding [0x00])
      [(.plain CommandId.signCoilData,
        (Environment.reference.invoke .shipped (.plain CommandId.signCoilData)
          (.holding [0x00])).1)] := by
  intro keeps
  have held := holding_numbered [0x00]
  have leaks := invoke_leaks reference_succeeds .shipped held (.plain CommandId.signCoilData)
    (.inr (.inr (.inr rfl)))
  exact leaks.not_keeps held (keeps [] _ [] _ rfl .nil)

/-- Two signings leave two operations live, and two keys. -/
theorem run_leaks_shipped :
    ∃ (s : Tee) (operations keys : List Nat), operations.length = 2 ∧ keys.length = 2 ∧
      Added (Tee.holding [0x00]).liveOperations s.liveOperations operations ∧
      Added (Tee.holding [0x00]).liveKeys s.liveKeys keys := by
  have signs : (Invocation.plain CommandId.signCoilData).Authenticates := .inr (.inr (.inr rfl))
  have first := Run.single (M := application .reference .shipped) (.holding [0x00])
    (.plain CommandId.signCoilData) trivial rfl
  have run := first.snoc (.plain CommandId.signCoilData) trivial
  obtain ⟨operations, keys, count, counted, live, liveKeys, _⟩ :=
    run_leaks reference_succeeds (holding_numbered [0x00]) run
  refine ⟨_, operations, keys, count.trans ?_, counted.trans ?_, live, liveKeys⟩
  · simp [signs]
  · simp [signs]

end Shipped

end InvCtrl
