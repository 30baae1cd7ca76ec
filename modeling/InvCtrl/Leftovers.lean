import InvCtrl.Concurrency
import InvCtrl.Verification

/-! What is left of a command that runs between others. Before its effect a read has to
open and to read, and a seed or an accepted set to reach its overwrite; after it only
calls are left that do not see the store, and the answer is fixed. -/
namespace InvCtrl
open Interaction Linearization

section Blind

/-- The call neither sees nor changes the store. -/
def TeeCall.Blind : TeeCall → Prop
  | .createPersistentObject .. | .openPersistentObject .. => False
  | .readObjectData object _ _ => ∀ id, object ≠ .live id
  | _ => True

def TeeCall.Closes : TeeCall → Prop
  | .closeObject .. => True
  | _ => False

theorem TeeCall.Closes.blind {call : TeeCall} (closes : call.Closes) : call.Blind := by
  cases call with
  | closeObject => trivial
  | _ => exact closes.elim

theorem TeeCall.Quiet.unscheduled {call : TeeCall} (quiet : call.Quiet) : ¬ call.Scheduled := by
  cases call with
  | createPersistentObject | openPersistentObject | readObjectData | closeObject =>
    exact quiet.elim
  | _ => exact Bool.false_ne_true

variable (env : Environment) (s : Tee) (store : Store)

@[simp] theorem withStore_storageCalls : (s.withStore store).storageCalls = s.storageCalls := rfl
@[simp] theorem withStore_cryptoCalls : (s.withStore store).cryptoCalls = s.cryptoCalls := rfl

@[simp] theorem withStore_object (handle : Handle) :
    (s.withStore store).object handle = s.object handle := by cases handle <;> rfl

@[simp] theorem withStore_operation (handle : Handle) :
    (s.withStore store).operation handle = s.operation handle := by cases handle <;> rfl

@[simp] theorem withStore_view (buffer : Buffer) (count : Nat) :
    (s.withStore store).view buffer count = s.view buffer count := by cases buffer <;> rfl

theorem withStore_setObject (handle : Handle) (object : Option ObjectState) :
    (s.withStore store).setObject handle object = (s.setObject handle object).withStore store := by
  cases handle <;> rfl

theorem withStore_setOperation (handle : Handle) (operation : Option OperationState) :
    (s.withStore store).setOperation handle operation =
      (s.setOperation handle operation).withStore store := by
  cases handle <;> rfl

theorem object_dead {handle : Handle} (dead : ∀ id, handle ≠ .live id) : s.object handle = none := by
  cases handle with
  | live id => exact absurd rfl (dead id)
  | _ => rfl

theorem blind_withStore {request : TeeCall} (blind : request.Blind) :
    env.handler request (s.withStore store) =
      ((env.handler request s).1, (env.handler request s).2.withStore store) := by
  by_cases answers : (env.cryptography s.cryptoCalls).result = teeSuccess
  all_goals cases request with
  | createPersistentObject | openPersistentObject => exact blind.elim
  | readObjectData object buffer size =>
    simp only [Environment.handler, Environment.readObjectData, withStore_object,
      object_dead s blind]
    rfl
  | closeObject object =>
    have closed := withStore_setObject s.storageCall store object none
    by_cases stored : (env.storage s.storageCalls).result = teeSuccess
    · simp only [Environment.handler, Environment.closeObject, withStore_storageCalls, stored,
        ↓reduceIte, ← closed]
      rfl
    · simp only [Environment.handler, Environment.closeObject, withStore_storageCalls, stored,
        ↓reduceIte]
      rfl
  | freeTransientObject object => exact congrArg _ (withStore_setObject s store object none)
  | freeOperation operation => exact congrArg _ (withStore_setOperation s store operation none)
  | storeByte | uninitialized => rfl
  | allocateTransientObject | allocateOperation =>
    simp only [Environment.handler, Environment.allocateTransientObject,
      Environment.allocateOperation, withStore_cryptoCalls, answers, ↓reduceIte]
    rfl
  | populateTransientObject object attrs =>
    simp only [Environment.handler, Environment.populateTransientObject, withStore_cryptoCalls,
      withStore_object, answers, ↓reduceIte]
    first
    | rfl
    | split
      · exact congrArg _ (withStore_setObject s.cryptoCall store object _)
      · rfl
  | setOperationKey operation key =>
    simp only [Environment.handler, Environment.setOperationKey, withStore_cryptoCalls,
      withStore_object, withStore_operation, answers, ↓reduceIte]
    first
    | rfl
    | split
      · exact congrArg _ (withStore_setOperation s.cryptoCall store operation _)
      · rfl
  | digestDoFinal | asymmetricVerifyDigest =>
    simp only [Environment.handler, Environment.digestDoFinal, Environment.asymmetricVerifyDigest,
      withStore_cryptoCalls, withStore_operation, withStore_view, answers, ↓reduceIte]
    first
    | rfl
    | split
      · split <;> rfl
      · rfl
  | asymmetricSignDigest =>
    simp only [Environment.handler, Environment.asymmetricSignDigest, withStore_cryptoCalls,
      withStore_operation, answers, ↓reduceIte]
    first
    | rfl
    | split
      · split
        · rfl
        · split <;> rfl
      · rfl

theorem handler_store {request : TeeCall}
    (keeps : ∀ objectID flags data, request ≠ .createPersistentObject objectID flags data) :
    (env.handler request s).2.store = s.store := by
  cases request with
  | createPersistentObject objectID flags data => exact absurd rfl (keeps objectID flags data)
  | openPersistentObject objectID flags =>
    simp only [Environment.handler, Environment.openPersistentObject]
    split
    · split <;> rfl
    · rfl
  | readObjectData object buffer size =>
    simp only [Environment.handler, Environment.readObjectData]
    split
    · split
      · have same := visible_setObject s.storageCall object
        cases buffer <;> exact congrArg Prod.fst (same _)
      · rfl
    · rfl
  | closeObject object =>
    simp only [Environment.handler, Environment.closeObject]
    split
    · exact congrArg Prod.fst (visible_setObject s.storageCall object none)
    · rfl
  | asymmetricSignDigest =>
    simp only [Environment.handler, Environment.asymmetricSignDigest]
    split
    · split
      · split
        · rfl
        · split <;> rfl
      · rfl
    · rfl
  | storeByte => rfl
  | _ => exact congrArg Prod.fst (quiet_frame env _ s (by trivial))

theorem blind_store {request : TeeCall} (blind : request.Blind) :
    (env.handler request s).2.store = s.store := by
  refine handler_store env s fun objectID flags data same => ?_
  subst same
  exact blind

/-- What is left of a command leads to this answer, if nothing comes in between. -/
def leadsTo (program : TeeProgram (TeeResult × TeeParams)) (s : Tee) : Answer :=
  ((program.run env.handler s).1, (program.run env.handler s).2.memory)

variable {program : TeeProgram (TeeResult × TeeParams)}

theorem run_withStore (blind : program.Uses TeeCall.Blind) :
    program.run env.handler (s.withStore store) =
      ((program.run env.handler s).1, (program.run env.handler s).2.withStore store) := by
  induction program generalizing s with
  | done value => rfl
  | call request next ih =>
    rw [Program.run, blind_withStore env s store blind.1]
    exact ih _ _ (blind.2 _)

theorem leadsTo_withStore (blind : program.Uses TeeCall.Blind) :
    leadsTo env program (s.withStore store) = leadsTo env program s := by
  rw [leadsTo, run_withStore env s store blind]
  rfl

theorem leadsTo_settle (program : TeeProgram (TeeResult × TeeParams)) :
    let r := program.settle TeeCall.Scheduled env.handler s
    leadsTo env r.1 r.2 = leadsTo env program s := by
  simp only [leadsTo, Program.run_settle]

end Blind

section Shapes
variable (env : Environment) (seed : Seed)

/-- The effect is behind: only blind calls are left, and they lead to the answer. -/
structure Settled (answer : Answer) (program : TeeProgram (TeeResult × TeeParams)) (s : Tee) :
    Prop where
  blind : program.Uses TeeCall.Blind
  leads : leadsTo env program s = answer

/-- A storage call that changes neither store nor memory. -/
def TeeCall.Keeps : TeeCall → Prop
  | .openPersistentObject .. | .readObjectData _ (.stack _) _ | .closeObject _ => True
  | _ => False

/-- What follows an open reads from the object and does not see the store again. -/
def Reads (next : TeeResult × Handle → TeeProgram (TeeResult × TeeParams)) : Prop :=
  ∀ reply, ∃ buffer size rest, next reply = .call (.readObjectData
    (if reply.1 = teeSuccess then reply.2 else .indeterminate) buffer size) rest ∧
      ∀ data, (rest data).Uses TeeCall.Blind

/-- Storage calls up to one create of the coil object, then closes and this result. -/
def Overwrites (result : TeeResult × TeeParams) : TeeProgram (TeeResult × TeeParams) → Prop
  | .call (.createPersistentObject objectID _ _) next =>
    objectID = filename ∧ ∀ reply, (next reply).Uses TeeCall.Closes ∧ (next reply).Always (· = result)
  | .call (.openPersistentObject ..) next => ∀ reply, Overwrites result (next reply)
  | .call (.readObjectData _ (.stack _) _) next => ∀ reply, Overwrites result (next reply)
  | .call (.closeObject _) next => ∀ reply, Overwrites result (next reply)
  | _ => False

/-- The effect is ahead. A read opens and then reads; a seed or an accepted set writes. -/
inductive Pending (store : Store) (request : Invocation) :
    TeeProgram (TeeResult × TeeParams) → Tee → Prop where
  | opening {flags : DataFlags} {next : TeeResult × Handle → TeeProgram (TeeResult × TeeParams)}
      {s : Tee}
      (reads : Reads next)
      (leads : ∀ store, leadsTo env (.call (.openPersistentObject filename flags) next)
        (s.withStore store) = (serve env.crypto seed store request).1)
      (keeps : ∀ store, (serve env.crypto seed store request).2 = store) :
      Pending store request (.call (.openPersistentObject filename flags) next) s
  | reading {object : Handle} {buffer : Buffer} {size : Nat}
      {next : TeeResult × List UInt8 → TeeProgram (TeeResult × TeeParams)} {s : Tee}
      (present : (store filename).isSome)
      (blind : ∀ data, (next data).Uses TeeCall.Blind)
      (leads : ∀ store, (store filename).isSome →
        leadsTo env (.call (.readObjectData object buffer size) next) (s.withStore store) =
          (serve env.crypto seed store request).1)
      (keeps : ∀ store, (serve env.crypto seed store request).2 = store) :
      Pending store request (.call (.readObjectData object buffer size) next) s
  | writing {result : TeeResult × TeeParams} {program : TeeProgram (TeeResult × TeeParams)} {s : Tee}
      (overwrites : Overwrites result program)
      (answers : ∀ store, (serve env.crypto seed store request).1 = (result, request.memory))
      (writes : ∀ store, ∃ data, (serve env.crypto seed store request).2 =
        Function.update store filename (some data))
      (memory : s.memory = request.memory) :
      Pending store request program s

/-- A command after a call that found this store: the effect is still ahead and the
store as it was, or the command has had its effect. -/
def Stands (store : Store) (request : Invocation) (r : TeeProgram (TeeResult × TeeParams) × Tee) :
    Prop :=
  (Pending env seed store request r.1 r.2 ∧ r.2.store = store) ∨
    (Settled env (serve env.crypto seed store request).1 r.1 r.2 ∧
      r.2.store = (serve env.crypto seed store request).2)

end Shapes

section Steps
variable {n : Nat} {env : Environment} {seed : Seed} {c : Cluster n} {i : Fin n} {s : Tee}
  {request : Invocation} {made : TeeCall} {answer : Answer}
  {next : TeeCall.Reply made → TeeProgram (TeeResult × TeeParams)}

theorem answer_blind (blind : made.Blind) : c.answer env i made = env.handler made := by
  cases made with
  | createPersistentObject | openPersistentObject => exact blind.elim
  | _ => rfl

/-- Settling what is left changes neither the answer it leads to nor the store. -/
theorem settled_settle {program : TeeProgram (TeeResult × TeeParams)}
    (blind : program.Uses TeeCall.Blind) (leads : leadsTo env program s = answer) :
    let r := program.settle TeeCall.Scheduled env.handler s
    Settled env answer r.1 r.2 ∧ r.2.store = s.store :=
  ⟨⟨blind.settle _ _ _, (leadsTo_settle env s program).trans leads⟩,
    Program.settle_frame _ _ Tee.store (fun _ s => blind_store env s) blind s⟩

theorem Settled.step (settled : Settled env answer (.call made next) s) :
    let r := c.resume env i next s
    Settled env answer r.1 r.2 ∧ r.2.store = c.store := by
  let a := c.answer env i made (s.withStore c.store)
  have alone : a = ((env.handler made s).1, (env.handler made s).2.withStore c.store) := by
    rw [show a = _ from congrFun (answer_blind settled.blind.1) _,
      blind_withStore env s c.store settled.blind.1]
  have leads : leadsTo env (next a.1) a.2 = answer := by
    rw [alone, leadsTo_withStore env _ _ (settled.blind.2 _)]
    exact settled.leads
  obtain ⟨after, store⟩ := settled_settle (settled.blind.2 a.1) leads
  refine ⟨after, store.trans ?_⟩
  rw [alone]
  rfl

/-- Without a conflict a read opens the object, or finds that there is none and has
decided its answer. -/
theorem opening_step (succeeds : env.Succeeds) {flags : DataFlags}
    {next : TeeCall.Reply (.openPersistentObject filename flags) →
      TeeProgram (TeeResult × TeeParams)}
    (reads : Reads next)
    (leads : ∀ store, leadsTo env (.call (.openPersistentObject filename flags) next)
      (s.withStore store) = (serve env.crypto seed store request).1)
    (keeps : ∀ store, (serve env.crypto seed store request).2 = store)
    (free : c.conflict i filename = false) :
    Stands env seed c.store request (c.resume env i next s) := by
  let a := c.answer env i (.openPersistentObject filename flags) (s.withStore c.store)
  have own : a = env.openPersistentObject filename flags (s.withStore c.store) := by
    simp only [a, Cluster.answer, free, Bool.false_eq_true, ↓reduceIte]
  by_cases present : (c.store filename).isSome
  · have opened (store : Store) (found : (store filename).isSome) :
        env.openPersistentObject filename flags (s.withStore store) =
          ((teeSuccess, .live s.next),
            (s.storageCall.addObject (.persistent filename flags 0)).withStore store) :=
      openPersistentObject_opened ⟨succeeds.storage.result _, found⟩ flags
    obtain ⟨buffer, size, rest, shape, blind⟩ := reads (teeSuccess, .live s.next)
    have reached : (next a.1).settle TeeCall.Scheduled env.handler a.2 = (next a.1, a.2) := by
      rw [own, opened c.store present]
      simp only [shape]
      exact Program.settle_stopped TeeCall.Scheduled env.handler rfl _ _
    rw [own, opened c.store present] at reached
    rw [Cluster.resume, show c.answer env i _ _ = _ from own, opened c.store present, reached]
    refine .inl ⟨?_, rfl⟩
    simp only [shape]
    refine .reading present blind (fun store found => ?_) keeps
    rw [← leads store, ← shape]
    simp only [leadsTo, Program.run, Environment.handler, opened store found]
    rfl
  · have absent : ¬ env.OpensCoil (s.withStore c.store) := fun opens => present opens.2
    obtain ⟨res, failed, unopened⟩ := openPersistentObject_unopened absent flags
    obtain ⟨buffer, size, rest, shape, blind⟩ := reads (res, .indeterminate)
    rw [if_neg failed] at shape
    have fixed : leadsTo env (next a.1) a.2 = (serve env.crypto seed c.store request).1 := by
      rw [← leads c.store, own]
      rfl
    have settled : (next a.1).Uses TeeCall.Blind := by
      rw [own, unopened, shape]
      exact ⟨fun _ same => (by cases same), blind⟩
    obtain ⟨after, store⟩ := settled_settle settled fixed
    refine .inr ⟨after, store.trans ?_⟩
    rw [own, unopened, keeps]
    rfl

theorem reading_step {object : Handle} {buffer : Buffer} {size : Nat}
    {next : TeeCall.Reply (.readObjectData object buffer size) → TeeProgram (TeeResult × TeeParams)}
    (present : (c.store filename).isSome) (blind : ∀ data, (next data).Uses TeeCall.Blind)
    (leads : ∀ store, (store filename).isSome →
      leadsTo env (.call (.readObjectData object buffer size) next) (s.withStore store) =
        (serve env.crypto seed store request).1)
    (keeps : ∀ store, (serve env.crypto seed store request).2 = store) :
    Stands env seed c.store request (c.resume env i next s) := by
  obtain ⟨after, store⟩ := settled_settle (blind _) (leads c.store present)
  refine .inr ⟨after, store.trans ?_⟩
  rw [keeps]
  exact handler_store env _ fun _ _ _ same => by cases same

theorem Overwrites.scheduled {result : TeeResult × TeeParams}
    (overwrites : Overwrites result (.call made next)) : made.Scheduled := by
  cases made with
  | createPersistentObject | openPersistentObject | readObjectData | closeObject => rfl
  | _ => exact overwrites.elim

theorem overwrites_settle {result : TeeResult × TeeParams}
    {program : TeeProgram (TeeResult × TeeParams)} (overwrites : Overwrites result program) (s : Tee) :
    program.settle TeeCall.Scheduled env.handler s = (program, s) := by
  cases program with
  | done value => exact overwrites.elim
  | call made next =>
    exact Program.settle_stopped TeeCall.Scheduled env.handler overwrites.scheduled next s

theorem closes_memory {made : TeeCall} (closes : made.Closes) (s : Tee) :
    (env.handler made s).2.memory = s.memory := by
  cases made with
  | closeObject object =>
    simp only [Environment.handler, Environment.closeObject]
    split
    · exact congrArg (·.2.1) (visible_setObject s.storageCall object none)
    · rfl
  | _ => exact closes.elim

theorem answer_keeps (keeps : made.Keeps) (s : Tee) :
    (c.answer env i made s).2.store = s.store ∧ (c.answer env i made s).2.memory = s.memory := by
  cases made with
  | openPersistentObject objectID flags =>
    simp only [Cluster.answer]
    split
    · exact ⟨rfl, rfl⟩
    · simp only [Environment.openPersistentObject]
      split
      · split <;> exact ⟨rfl, rfl⟩
      · exact ⟨rfl, rfl⟩
  | readObjectData object buffer size =>
    cases buffer with
    | shared pointer => exact keeps.elim
    | stack bytes =>
      simp only [Cluster.answer, Environment.handler, Environment.readObjectData]
      split
      · split
        · have same := visible_setObject s.storageCall object
          exact ⟨congrArg Prod.fst (same _), congrArg (·.2.1) (same _)⟩
        · exact ⟨rfl, rfl⟩
      · exact ⟨rfl, rfl⟩
  | closeObject object =>
    have closes : (TeeCall.closeObject object).Closes := trivial
    exact ⟨handler_store env s fun _ _ _ same => (by cases same), closes_memory closes s⟩
  | _ => exact keeps.elim

/-- A command on its way to its overwrite goes on, or overwrites what it is due to. -/
theorem writing_step (succeeds : env.Succeeds) {result : TeeResult × TeeParams}
    (overwrites : Overwrites result (.call made next))
    (answers : ∀ store, (serve env.crypto seed store request).1 = (result, request.memory))
    (writes : ∀ store, ∃ data, (serve env.crypto seed store request).2 =
      Function.update store filename (some data))
    (memory : s.memory = request.memory)
    (creates : ∀ objectID flags data, made = .createPersistentObject objectID flags data →
      c.conflict i objectID = false ∧
        (serve env.crypto seed c.store request).2 objectID = some data) :
    Stands env seed c.store request (c.resume env i next s) := by
  let a := c.answer env i made (s.withStore c.store)
  have goesOn (keeps : made.Keeps) (rest : Overwrites result (next a.1)) :
      Stands env seed c.store request (c.resume env i next s) := by
    obtain ⟨sameStore, sameMemory⟩ := answer_keeps (c := c) (i := i) keeps (s.withStore c.store)
    rw [Cluster.resume, overwrites_settle rest]
    exact .inl ⟨.writing rest answers writes (sameMemory.trans memory), sameStore⟩
  cases made with
  | createPersistentObject objectID flags data =>
    obtain ⟨rfl, rest⟩ := overwrites
    obtain ⟨free, due⟩ := creates _ _ _ rfl
    have own : a = ((teeSuccess, .live s.next), ((s.withStore c.store).storageCall.setStore filename
        data).addObject (.persistent filename flags 0)) := by
      simp only [a, Cluster.answer, free, Bool.false_eq_true, ↓reduceIte,
        Environment.createPersistentObject, succeeds.storage.result]
      rfl
    obtain ⟨closes, always⟩ := rest a.1
    have kept : ((next a.1).run env.handler a.2).2.memory = request.memory := by
      rw [Program.run_frame env.handler Tee.memory (fun _ s closes => closes_memory closes s) closes,
        own]
      exact memory
    have fixed : leadsTo env (next a.1) a.2 = (serve env.crypto seed c.store request).1 := by
      rw [answers]
      exact Prod.ext (always.run env.handler a.2) kept
    obtain ⟨after, store⟩ := settled_settle (closes.mono fun _ => TeeCall.Closes.blind) fixed
    refine .inr ⟨after, store.trans ?_⟩
    obtain ⟨written, update⟩ := writes c.store
    rw [update, Function.update_self] at due
    rw [own, update, due]
    rfl
  | openPersistentObject | closeObject => exact goesOn trivial (overwrites a.1)
  | readObjectData object buffer size =>
    cases buffer with
    | stack bytes => exact goesOn trivial (overwrites a.1)
    | shared pointer => exact overwrites.elim
  | _ => exact overwrites.elim

/-- A scheduled call, undisturbed, of a command whose effect is ahead. -/
theorem Pending.step (succeeds : env.Succeeds)
    (pending : Pending env seed c.store request (.call made next) s)
    (opens : ∀ objectID flags, made = .openPersistentObject objectID flags →
      c.conflict i objectID = false)
    (creates : ∀ objectID flags data, made = .createPersistentObject objectID flags data →
      c.conflict i objectID = false ∧
        (serve env.crypto seed c.store request).2 objectID = some data) :
    Stands env seed c.store request (c.resume env i next s) := by
  generalize whole : Program.call made next = program at pending
  cases pending with
  | opening reads leads keeps =>
    cases whole
    exact opening_step succeeds reads leads keeps (opens _ _ rfl)
  | reading present blind leads keeps =>
    cases whole
    exact reading_step present blind leads keeps
  | writing overwrites answers writes memory =>
    cases whole
    exact writing_step succeeds overwrites answers writes memory creates

end Steps

section Entries
variable {env : Environment} {seed : Seed} {store : Store} {s : Tee} {request : Invocation}

variable (seed s) in
/-- A command that runs alone from here leads to the specified answer over every store. -/
theorem leadsTo_serve (succeeds : env.Succeeds) (onCoil : request.OnCoil) (store : Store) :
    leadsTo env (request.program seed) ((request.supply s).withStore store) =
      (serve env.crypto seed store request).1 := by
  have serves := (invoke_serves seed (s.withStore store) succeeds onCoil).1
  rwa [invoke_eq] at serves

theorem TeeCall.Quiet.blind {call : TeeCall} (quiet : call.Quiet) : call.Blind := by
  cases call with
  | createPersistentObject | openPersistentObject | readObjectData => exact quiet.elim
  | _ => trivial

theorem taSign_blind (dataToSign : Buffer) (dataLen : Nat) (signaturePtr signatureLen : UInt32) :
    (taSign dataToSign dataLen signaturePtr signatureLen).Uses TeeCall.Blind :=
  taSign_uses _ _ _ _ ((taDigestAndKeys_quiet _ _).mono fun _ => TeeCall.Quiet.blind)
    (fun _ _ _ => (armOperation_quiet _ _ _).mono fun _ => TeeCall.Quiet.blind)
    (fun _ _ _ _ => trivial) (fun _ _ => trivial) fun _ => trivial

variable (seed) in
theorem program_reads (command : request.nCommandID = CommandId.getDataByCoilAddress) :
    ∃ flags next, request.program seed = .call (.openPersistentObject filename flags) next ∧
      Reads next := by
  rw [program_getDataByCoilAddress seed command]
  refine ⟨_, _, rfl, fun reply => ⟨_, _, _, rfl, fun data => .bind ?_ fun copied => ?_⟩⟩
  · exact ⟨trivial, fun _ => trivial⟩
  · exact .bind (taSign_blind _ _ _ _) fun _ => trivial

theorem enter_get (succeeds : env.Succeeds) (onCoil : request.OnCoil)
    (command : request.nCommandID = CommandId.getDataByCoilAddress) :
    Pending env seed store request (request.program seed) (request.supply s) := by
  have keeps (store : Store) : (serve env.crypto seed store request).2 = store := by
    rw [serve_get env.crypto seed store command]
  have leads (store : Store) := leadsTo_serve seed s succeeds onCoil store
  obtain ⟨flags, next, opens, reads⟩ := program_reads seed command
  rw [opens] at leads ⊢
  exact .opening reads leads keeps

theorem enter_seed (command : request.nCommandID = CommandId.seedCoil) :
    Pending env seed store request (request.program seed) (request.supply s) := by
  have overwrites : Overwrites (teeSuccess, request.pParams) (request.program seed) := by
    rw [program_seedCoil seed command]
    exact ⟨rfl, fun reply => ⟨⟨trivial, fun _ => trivial⟩, fun _ => rfl⟩⟩
  refine .writing overwrites (fun store => ?_) (fun store => ?_) rfl
  · rw [serve_seed env.crypto seed store command]
  · rw [serve_seed env.crypto seed store command]
    exact ⟨_, rfl⟩

variable (seed s) in
/-- A set verifies before its first storage call. With a valid signature it is then on
its way to the overwrite; with another one it is done. -/
theorem enter_set_decided (succeeds : env.Succeeds)
    (command : request.nCommandID = CommandId.setDataByCoilAddress) :
    let r := (request.program seed).settle TeeCall.Scheduled env.handler (request.supply s)
    let params := request.pParams
    (if env.crypto.valid (request.bytes params.p1) (request.bytes params.p2) = true then
      Overwrites (teeSuccess, { params with p3 := { params.p3 with a := (1 : Int32).toUInt32 } }) r.1
    else r.1 = .done (teeSuccess,
      { params with p3 := { params.p3 with a := (-1 : Int32).toUInt32 } })) ∧
      r.2.memory = request.memory ∧ r.2.store = s.store := by
  intro r params
  obtain ⟨done, verified⟩ := taVerify_verified env (request.supply s) (.shared params.p1.buffer)
    params.p1.size.toNat params.p2.buffer params.p2.size 0
  have works := taVerify_verified_iff env (request.supply s) (.shared params.p1.buffer)
    params.p1.size.toNat params.p2.buffer params.p2.size 0
  have goes : (taVerify (.shared params.p1.buffer) params.p1.size.toNat params.p2.buffer
      params.p2.size 0).Uses fun call => ¬ call.Scheduled :=
    (taVerify_quiet _ _ _ _ _).mono fun _ => TeeCall.Quiet.unscheduled
  have reached : r = (request.program seed).settle TeeCall.Scheduled env.handler (request.supply s) :=
    rfl
  rw [program_setDataByCoilAddress seed command, taSetDataByCoilAddress,
    Program.settle_bind _ _ goes] at reached
  generalize (taVerify _ _ _ _ _).run env.handler (request.supply s) = checked
    at reached done verified works
  obtain ⟨⟨res, verdict⟩, t⟩ := checked
  simp only at reached done verified works
  obtain ⟨store, memory, _, _⟩ := visible_ext verified.visible
  subst done
  by_cases valid : env.crypto.valid (request.bytes params.p1) (request.bytes params.p2) = true
  · have accepted : verdict = 1 := works.mpr ⟨succeeds.crypto.verifyWorks _, valid⟩
    subst accepted
    rw [if_neg refusal_apart.symm] at reached
    rw [if_pos valid, reached]
    exact ⟨fun opened data closed =>
      ⟨rfl, fun created => ⟨⟨trivial, fun _ => trivial⟩, fun _ => rfl⟩⟩, memory, store⟩
  · have refused : verdict = -1 := verified.decided.resolve_left fun one => valid (works.mp one).2
    subst refused
    rw [if_pos rfl] at reached
    rw [if_neg valid, reached]
    exact ⟨rfl, memory, store⟩

theorem enter_set (succeeds : env.Succeeds)
    (command : request.nCommandID = CommandId.setDataByCoilAddress) :
    let r := (request.program seed).settle TeeCall.Scheduled env.handler (request.supply s)
    Pending env seed store request r.1 r.2 ∨
      Settled env (serve env.crypto seed store request).1 r.1 r.2 ∧
        (serve env.crypto seed store request).2 = store := by
  intro r
  obtain ⟨decided, memory, _⟩ := enter_set_decided seed s succeeds command
  split at decided
  · next valid =>
    refine .inl (.writing decided (fun store => ?_) (fun store => ?_) memory)
    · rw [serve_set env.crypto seed store command, if_pos valid]
    · rw [serve_set env.crypto seed store command, if_pos valid]
      exact ⟨_, rfl⟩
  · next invalid =>
    have reached : r = (.done _, r.2) := Prod.ext decided rfl
    rw [serve_set env.crypto seed store command, if_neg invalid, reached]
    exact .inr ⟨⟨trivial, Prod.ext rfl memory⟩, rfl⟩

variable (env seed s) in
theorem starts_stopped (command : request.nCommandID = CommandId.seedCoil ∨
      request.nCommandID = CommandId.getDataByCoilAddress) :
    (request.program seed).settle TeeCall.Scheduled env.handler s = (request.program seed, s) := by
  rcases command with command | command
  · rw [program_seedCoil seed command]
    rfl
  · rw [program_getDataByCoilAddress seed command]
    rfl

variable (seed store s) in
/-- Every command enters with its effect ahead, or is done without one. -/
theorem enter_command (succeeds : env.Succeeds) (onCoil : request.OnCoil) :
    let r := (request.program seed).settle TeeCall.Scheduled env.handler (request.supply s)
    Pending env seed store request r.1 r.2 ∨
      Settled env (serve env.crypto seed store request).1 r.1 r.2 ∧
        (serve env.crypto seed store request).2 = store := by
  intro r
  rcases id onCoil with command | ⟨command, _⟩ | ⟨command, _⟩
  · rw [show r = _ from starts_stopped env seed (request.supply s) (.inl command)]
    exact .inl (enter_seed command)
  · rw [show r = _ from starts_stopped env seed (request.supply s) (.inr command)]
    exact .inl (enter_get succeeds onCoil command)
  · exact enter_set succeeds command

end Entries

end InvCtrl
