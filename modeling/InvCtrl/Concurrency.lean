import InvCtrl.Register
import InvCtrl.Message
import InvCtrl.Outcomes
import InvCtrl.Interleaving
import InvCtrl.Linearization

/-! Sessions of the application over one storage. The application is multi-session and
not single-instance: every session has an instance of its own, with handles, operations
and parameter memory, and only the stored objects are shared. A scheduler decides which
session makes its next storage call; what a command does in between is local. -/
namespace InvCtrl
open Interaction Execution Linearization

abbrev Store := List UInt8 → Option (List UInt8)

/-- Status, parameters and parameter memory as a command leaves them. -/
abbrev Answer := (TeeResult × TeeParams) × (UInt32 → ByteMemory)

def teeErrorAccessConflict : TeeResult := 0xFFFF0003

section Commands
variable (crypto : Crypto) (seed : Seed) (store : Store) (request : Invocation)

/-- The stored coil; an absent object reads as zeros. -/
def Store.coil : Bool := PackedBits.get ((store filename).getD []) 0

/-- The commands under a scheduler: seeds, and reads and sets of the mapped coil. -/
def Invocation.OnCoil : Prop :=
  request.nCommandID = CommandId.seedCoil ∨
    (request.nCommandID = CommandId.getDataByCoilAddress ∧
      request.pParams.p0.b.toInt32 = coilAddressInverterStatus) ∨
    (request.nCommandID = CommandId.setDataByCoilAddress ∧
      request.pParams.p0.a.toInt32 = coilAddressInverterStatus)

/-- What a command does that runs alone on a store. A read answers with the coil and its
signature; a set with a valid signature replaces the coil in a copy of what is stored. -/
def serve : Answer × Store :=
  let params := request.pParams
  if request.nCommandID = CommandId.seedCoil then
    (((teeSuccess, params), request.memory),
      Function.update store filename (some seed.coilData))
  else if request.nCommandID = CommandId.getDataByCoilAddress then
    let value : UInt8 := if Store.coil store then 1 else 0
    let signature := crypto.signature (message value params.p0.a.toUInt16)
    (((teeSuccess, { params with
        p1 := { params.p1 with b := 128 }, p2 := { params.p2 with a := value.toUInt32 } }),
      Function.update request.memory params.p1.buffer
        ((request.memory params.p1.buffer).overlay 0 signature)), store)
  else if crypto.valid (request.bytes params.p1) (request.bytes params.p2) = true then
    (((teeSuccess, { params with p3 := { params.p3 with a := (1 : Int32).toUInt32 } }),
      request.memory), Function.update store filename
        (some (PackedBits.set (seed.copied (store filename)) 0 (params.p0.b.toUInt8 ≠ 0))))
  else
    (((teeSuccess, { params with p3 := { params.p3 with a := (-1 : Int32).toUInt32 } }),
      request.memory), store)

variable {request}

theorem serve_seed (command : request.nCommandID = CommandId.seedCoil) :
    serve crypto seed store request = (((teeSuccess, request.pParams), request.memory),
      Function.update store filename (some seed.coilData)) := by
  simp only [serve, if_pos command]

theorem serve_get (command : request.nCommandID = CommandId.getDataByCoilAddress) :
    let value : UInt8 := if Store.coil store then 1 else 0
    let signature := crypto.signature (message value request.pParams.p0.a.toUInt16)
    serve crypto seed store request =
      (((teeSuccess, { request.pParams with
          p1 := { request.pParams.p1 with b := 128 }
          p2 := { request.pParams.p2 with a := value.toUInt32 } }),
        Function.update request.memory request.pParams.p1.buffer
          ((request.memory request.pParams.p1.buffer).overlay 0 signature)), store) := by
  have other : request.nCommandID ≠ CommandId.seedCoil := fun seeding =>
    command_apart command seeding (by decide)
  simp only [serve, if_neg other, if_pos command]

theorem serve_set (command : request.nCommandID = CommandId.setDataByCoilAddress) :
    serve crypto seed store request =
      if crypto.valid (request.bytes request.pParams.p1) (request.bytes request.pParams.p2) = true
      then (((teeSuccess, { request.pParams with
          p3 := { request.pParams.p3 with a := (1 : Int32).toUInt32 } }), request.memory),
        Function.update store filename
          (some (PackedBits.set (seed.copied (store filename)) 0 (request.pParams.p0.b.toUInt8 ≠ 0))))
      else (((teeSuccess, { request.pParams with
          p3 := { request.pParams.p3 with a := (-1 : Int32).toUInt32 } }), request.memory),
        store) := by
  have seeding : request.nCommandID ≠ CommandId.seedCoil := fun other =>
    command_apart command other (by decide)
  have getting : request.nCommandID ≠ CommandId.getDataByCoilAddress := fun other =>
    command_apart command other (by decide)
  simp only [serve, if_neg seeding, if_neg getting]

end Commands

section Alone
variable {env : Environment} {seed : Seed} {s t : Tee} {request : Invocation}

theorem Effect.serves (succeeds : env.Succeeds) (onCoil : request.OnCoil)
    (effect : Effect env seed request s res params t) :
    ((res, params), t.memory) = (serve env.crypto seed s.store request).1 ∧
      t.store = (serve env.crypto seed s.store request).2 := by
  cases effect with
  | seedCoil command visible =>
    rw [serve_seed env.crypto seed s.store command]
    refine ⟨Prod.ext rfl (congrArg (·.2.1) visible), (congrArg (·.1) visible).trans ?_⟩
    exact if_pos (succeeds.storage.result _)
  | getDataByCoilAddress len command result =>
    have mapped : request.pParams.p0.b.toInt32 = coilAddressInverterStatus := by
      rcases onCoil with other | ⟨_, mapped⟩ | ⟨other, _⟩
      · exact (command_apart command other (by decide)).elim
      · exact mapped
      · exact (command_apart command other (by decide)).elim
    have value : env.coilValue seed s request.pParams.p0.b =
        if Store.coil s.store then 1 else 0 := by
      rw [coilValue_coil succeeds.storage]
      simp only [mapped, true_and]
      rfl
    obtain ⟨rfl, _, memory⟩ := result.complete succeeds.crypto
    rw [message_unsigned, value] at memory
    rw [serve_get env.crypto seed s.store command, value]
    exact ⟨Prod.ext rfl memory, result.store⟩
  | setAccepted command valid visible =>
    have mapped : request.pParams.p0.a.toInt32 = coilAddressInverterStatus := by
      rcases onCoil with other | ⟨other, _⟩ | ⟨_, mapped⟩
      · exact (command_apart command other (by decide)).elim
      · exact (command_apart command other (by decide)).elim
      · exact mapped
    rw [serve_set env.crypto seed s.store command, if_pos valid]
    refine ⟨Prod.ext rfl (congrArg (·.2.1) visible), (congrArg (·.1) visible).trans ?_⟩
    rw [if_pos (succeeds.storage.result _), coilUpdate_mapped env seed s _ _ mapped,
      coilCopy_copied succeeds.storage]
  | setRejected command unverified visible =>
    have invalid : ¬ env.crypto.valid (request.bytes request.pParams.p1)
        (request.bytes request.pParams.p2) = true := fun valid =>
      unverified ⟨succeeds.crypto, valid⟩
    rw [serve_set env.crypto seed s.store command, if_neg invalid]
    exact ⟨Prod.ext rfl (congrArg (·.2.1) visible), congrArg (·.1) visible⟩
  | getAllCoilData command | verifyCoilData _ command | signCoilData _ command =>
    rcases onCoil with other | ⟨other, _⟩ | ⟨other, _⟩ <;>
      exact (command_apart command other (by decide)).elim
  | unknown absent =>
    rcases onCoil with other | ⟨other, _⟩ | ⟨other, _⟩ <;> exact absurd other (by simp_all)

variable (seed s) in
/-- Alone, a command does what its specification says, whatever else its instance holds. -/
theorem invoke_serves (succeeds : env.Succeeds) (onCoil : request.OnCoil) :
    let r := env.invoke seed request s
    (r.1, r.2.memory) = (serve env.crypto seed s.store request).1 ∧
      r.2.store = (serve env.crypto seed s.store request).2 :=
  (invoke_effect env seed request s).serves succeeds onCoil

end Alone

section Sessions

/-- The calls that the scheduler interleaves. -/
def TeeCall.scheduled : TeeCall → Bool
  | .createPersistentObject .. | .openPersistentObject .. | .readObjectData ..
  | .closeObject .. => true
  | _ => false

abbrev TeeCall.Scheduled (call : TeeCall) : Prop := call.scheduled = true

/-- A command on its way: what it still has to do. -/
structure Running where
  ticket : Nat
  request : Invocation
  program : TeeProgram (TeeResult × TeeParams)

/-- One instance; the store in its state is the shared one at its last call. -/
structure Session where
  tee : Tee
  running : Option Running

structure Cluster (n : Nat) where
  store : Store
  session : Fin n → Session
  next : Nat

def Tee.withStore (s : Tee) (store : Store) : Tee := { s with store := store }

def ObjectState.names (objectID : List UInt8) : ObjectState → Bool
  | .persistent other _ _ => other == objectID
  | .transient .. => false

/-- The instance has the object open. -/
def Tee.holds (s : Tee) (objectID : List UInt8) : Bool :=
  (List.range s.next).any fun id => (s.objects id).any (·.names objectID)

/-- Sessions without a command over the store of one instance. -/
def Cluster.idle (n : Nat) (s : Tee) : Cluster n := ⟨s.store, fun _ => ⟨s, none⟩, 0⟩

namespace Cluster
variable {n : Nat} (env : Environment) (seed : Seed) (c : Cluster n)

/-- Another session has the object open. No call of the application shares an object. -/
def conflict (i : Fin n) (objectID : List UInt8) : Bool :=
  (List.finRange n).any fun j => j != i && (c.session j).tee.holds objectID

/-- A conflicting open or create fails, and everything else goes to the instance. -/
def answer (i : Fin n) : Handler TeeCall TeeCall.Reply Tee
  | .createPersistentObject objectID flags initialData => fun s =>
    if c.conflict i objectID then ((teeErrorAccessConflict, .indeterminate), s.storageCall)
    else env.createPersistentObject objectID flags initialData s
  | .openPersistentObject objectID flags => fun s =>
    if c.conflict i objectID then ((teeErrorAccessConflict, .indeterminate), s.storageCall)
    else env.openPersistentObject objectID flags s
  | request => env.handler request

def setSession (i : Fin n) (session : Session) : Cluster n :=
  { c with session := Function.update c.session i session }

/-- A command runs up to its first storage call. -/
def enter (i : Fin n) (request : Invocation) : Cluster n :=
  let r := (request.program seed).settle TeeCall.Scheduled env.handler
    (request.supply ((c.session i).tee.withStore c.store))
  { c.setSession i ⟨r.2, some ⟨c.next, request, r.1⟩⟩ with next := c.next + 1 }

/-- One storage call, and the program up to its next one. -/
def resume (i : Fin n) {made : TeeCall}
    (next : TeeCall.Reply made → TeeProgram (TeeResult × TeeParams)) (s : Tee) :
    TeeProgram (TeeResult × TeeParams) × Tee :=
  let a := c.answer env i made (s.withStore c.store)
  (next a.1).settle TeeCall.Scheduled env.handler a.2

def call (i : Fin n) : Cluster n :=
  match (c.session i).running with
  | some ⟨ticket, request, .call _ next⟩ =>
    let r := c.resume env i next (c.session i).tee
    { c.setSession i ⟨r.2, some ⟨ticket, request, r.1⟩⟩ with store := r.2.store }
  | _ => c

end Cluster

/-- What the scheduler lets happen next. -/
inductive Turn (n : Nat) where
  | enter (i : Fin n) (request : Invocation)
  | call (i : Fin n)
  | leave (i : Fin n)

inductive Shown where
  | entered (ticket : Nat)
  | called
  | left (ticket : Nat) (answer : Answer)

def Cluster.step (env : Environment) (seed : Seed) (c : Cluster n) : Turn n → Shown × Cluster n
  | .enter i request => (.entered c.next, c.enter env seed i request)
  | .call i => (.called, c.call env i)
  | .leave i =>
    match (c.session i).running with
    | some ⟨ticket, _, .done result⟩ =>
      (.left ticket (result, (c.session i).tee.memory),
        c.setSession i ⟨(c.session i).tee, none⟩)
    | _ => (.called, c)

/-- A session has one command at a time. -/
def Cluster.admissible (c : Cluster n) : Turn n → Prop
  | .enter i request => (c.session i).running = none ∧ request.OnCoil
  | .call i => ∃ ticket request made next,
    (c.session i).running = some ⟨ticket, request, .call made next⟩
  | .leave i => ∃ ticket request result,
    (c.session i).running = some ⟨ticket, request, .done result⟩

instance (request : Invocation) : Decidable request.OnCoil :=
  inferInstanceAs (Decidable (_ ∨ _ ∧ _ ∨ _ ∧ _))

/-- What stands next in a session decides what the scheduler may do with it. -/
instance Cluster.decidableAdmissible (c : Cluster n) :
    (turn : Turn n) → Decidable (c.admissible turn)
  | .enter i request =>
    match stands : (c.session i).running with
    | none => decidable_of_iff request.OnCoil ⟨fun onCoil => ⟨stands, onCoil⟩, And.right⟩
    | some running => .isFalse fun both => by cases stands.symm.trans both.1
  | .call i =>
    match stands : (c.session i).running with
    | some ⟨ticket, request, .call made next⟩ => .isTrue ⟨ticket, request, made, next, stands⟩
    | some ⟨_, _, .done _⟩ | none => .isFalse fun ⟨_, _, _, _, calls⟩ => by
      cases stands.symm.trans calls
  | .leave i =>
    match stands : (c.session i).running with
    | some ⟨ticket, request, .done result⟩ => .isTrue ⟨ticket, request, result, stands⟩
    | some ⟨_, _, .call _ _⟩ | none => .isFalse fun ⟨_, _, _, done⟩ => by
      cases stands.symm.trans done

def cluster (n : Nat) (env : Environment) (seed : Seed) : Machine (Cluster n) (Turn n) Shown where
  step := Cluster.step env seed
  admissible := Cluster.admissible

instance (env : Environment) (seed : Seed) (c : Cluster n) (turn : Turn n) :
    Decidable ((cluster n env seed).admissible c turn) :=
  Cluster.decidableAdmissible c turn

/-- The invocations and answers of a history. -/
def events (history : History (Turn n) Shown) : List (Event Invocation Answer) :=
  history.filterMap fun
    | (.enter _ request, .entered ticket) => some (.invoke ticket request)
    | (.leave _, .left ticket answer) => some (.respond ticket answer)
    | _ => none

end Sessions

end InvCtrl
