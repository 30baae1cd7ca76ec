import InvCtrl.Parameters

/-! The client API as the agent and the host library use it, whatever its calls reply:
a session is opened on the context just initialized, takes one command, is closed, and
its context is finalized. When a session cannot be opened the function returns at
once, and its context stays initialized for good. -/
namespace InvCtrl
open Interaction

abbrev TeecEvent := Program.Event TeecCall TeecCall.Reply

def TeecParams.toList (params : TeecParams) : List TeecParam :=
  [params.p0, params.p1, params.p2, params.p3]

/-- A parameter that the code takes for a reference is one, and so for values. -/
def Usage.Fits : Usage → TeecParam → Prop
  | .unused, _ => True
  | .readsValue, .valueInout .. | .writesValue, .valueInout .. => True
  | .readsMemory, .memrefTempOutput .. | .writesMemory, .memrefTempOutput .. => True
  | _, _ => False

/-- The command puts a signature behind its second parameter. -/
def Signing (commandID : UInt32) : Prop :=
  commandID = CommandId.getDataByCoilAddress ∨ commandID = CommandId.signCoilData

instance (commandID : UInt32) : Decidable (Signing commandID) := inferInstanceAs (Decidable (_ ∨ _))

/-- The operation is what the code of the command takes it for, and where that puts a
signature there is room for its whole scratch array. -/
structure Agrees (commandID : UInt32) (params : TeecParams) : Prop where
  fits : ∀ use ∈ (usages commandID).zip params.toList, use.1.Fits use.2
  room : Signing commandID → 512 ≤ params.p1.size.toNat

theorem agrees_of {commandID : UInt32} {params : TeecParams} {first second third fourth : Usage}
    (layout : usages commandID = [first, second, third, fourth]) (fits0 : first.Fits params.p0)
    (fits1 : second.Fits params.p1) (fits2 : third.Fits params.p2)
    (fits3 : fourth.Fits params.p3) (room : Signing commandID → 512 ≤ params.p1.size.toNat) :
    Agrees commandID params where
  fits := by
    rw [layout]
    simp [TeecParams.toList, fits0, fits1, fits2, fits3]
  room := room

/-- How far the host function that runs now has come. -/
inductive ClientPhase where
  | idle | context | session | served | closed
  deriving DecidableEq, Repr

/-- The phase, with the contexts that are initialized and not finalized and the sessions
that could not be opened. -/
structure Client where
  phase : ClientPhase
  contexts : Nat
  stranded : Nat

namespace Client

def start : Client := ⟨.idle, 0, 0⟩

def move (client : Client) : TeecEvent → Client
  | ⟨.initializeContext, res⟩ =>
    if res = teecSuccess then ⟨.context, client.contexts + 1, client.stranded⟩ else client
  | ⟨.openSession, res⟩ =>
    if res = teecSuccess then { client with phase := .session }
    else ⟨.idle, client.contexts, client.stranded + 1⟩
  | ⟨.invokeCommand .., _⟩ => { client with phase := .served }
  | ⟨.closeSession, _⟩ => { client with phase := .closed }
  | ⟨.finalizeContext, _⟩ => ⟨.idle, client.contexts - 1, client.stranded⟩
  | ⟨.uninitialized, _⟩ => client

/-- The calls in order in each phase; a command is one of the six, and its operation is
declared as what it is and agrees with the command. -/
def Allows (client : Client) : TeecEvent → Prop
  | ⟨.initializeContext, _⟩ => client.phase = .idle
  | ⟨.openSession, _⟩ => client.phase = .context
  | ⟨.invokeCommand commandID paramTypes params, _⟩ =>
    client.phase = .session ∧ commandID ∈ CommandId.all ∧ paramTypes = params.paramTypes ∧
      Agrees commandID params
  | ⟨.closeSession, _⟩ => client.phase = .served
  | ⟨.finalizeContext, _⟩ => client.phase = .closed
  | ⟨.uninitialized, _⟩ => True

/-- Between two host functions: only the stranded contexts are left. -/
structure Settled (client : Client) : Prop where
  phase : client.phase = .idle
  contexts : client.contexts = client.stranded

structure InSession (client : Client) : Prop where
  phase : client.phase = .session
  contexts : client.contexts = client.stranded + 1

end Client

def TeecEvent.Strands : TeecEvent → Bool
  | ⟨.openSession, res⟩ => res ≠ teecSuccess
  | _ => false

theorem strands_counted (events : List TeecEvent) (client : Client) :
    (events.foldl Client.move client).stranded = client.stranded + events.countP TeecEvent.Strands := by
  induction events generalizing client with
  | nil => rfl
  | cons event rest ih =>
    have moved : (client.move event).stranded =
        client.stranded + if event.Strands then 1 else 0 := by
      obtain ⟨request, reply⟩ := event
      cases request with
      | initializeContext =>
        by_cases initialized : reply = teecSuccess <;>
          simp [Client.move, TeecEvent.Strands, initialized]
      | openSession =>
        by_cases opened : reply = teecSuccess <;> simp [Client.move, TeecEvent.Strands, opened]
      | invokeCommand | closeSession | finalizeContext | uninitialized => rfl
    rw [List.foldl_cons, ih, moved, List.countP_cons]
    omega

/-- From a settled client the calls are in order and the client is settled again. -/
structure Settles (p : HostProgram α) : Prop where
  obeys : ∀ client : Client, client.Settled →
    p.Obeys Client.move Client.Allows (fun _ last => last.Settled) client

section Functions

theorem settles_pure (value : α) : Settles (pure value : HostProgram α) :=
  ⟨fun _ settled => Program.obeys_pure settled⟩

theorem Settles.bind {p : HostProgram α} {next : α → HostProgram β} (first : Settles p)
    (rest : ∀ value, Settles (next value)) : Settles (p >>= next) := by
  constructor
  intro client settled
  apply Program.Obeys.bind
  exact (first.obeys client settled).mono fun value last held => (rest value).obeys last held

theorem settles_uninitialized {next : ByteMemory → HostProgram α}
    (rest : ∀ local', Settles (next local')) :
    Settles (Program.perform TeecCall.uninitialized >>= next) :=
  ⟨fun client settled => Program.obeys_call fun local' =>
    ⟨trivial, (rest local').obeys client settled⟩⟩

theorem openedSession_settles (failed : UInt32 → α) (body : HostProgram α)
    (within : ∀ client : Client, client.InSession →
      body.Obeys Client.move Client.Allows (fun _ last => last.Settled) client) :
    Settles (openedSession failed body) := by
  constructor
  intro client settled
  refine Program.obeys_call fun res => ⟨settled.phase, ?_⟩
  by_cases initialized : res = teecSuccess
  case neg =>
    simp only [ne_eq, initialized, not_false_eq_true, ↓reduceIte, Client.move]
    exact Program.obeys_pure settled
  simp only [ne_eq, initialized, not_true_eq_false, ↓reduceIte, Client.move]
  refine Program.obeys_call fun res => ⟨rfl, ?_⟩
  by_cases opened : res = teecSuccess
  case neg =>
    simp only [opened, not_false_eq_true, ↓reduceIte, Client.move]
    exact Program.obeys_pure ⟨rfl, congrArg (· + 1) settled.contexts⟩
  simp only [opened, not_true_eq_false, ↓reduceIte, Client.move]
  exact within _ ⟨rfl, congrArg (· + 1) settled.contexts⟩

theorem uninitialized_obeys (client : Client) :
    (Program.perform TeecCall.uninitialized : HostProgram ByteMemory).Obeys Client.move
      Client.Allows (fun _ last => last = client) client :=
  fun _ => ⟨trivial, rfl⟩

/-- A host function: its locals, the one command of its session, the way back, and a return. -/
theorem session_settles (failed : UInt32 → α) {locals : HostProgram β}
    (reads : ∀ client : Client,
      locals.Obeys Client.move Client.Allows (fun _ last => last = client) client)
    {commandID : UInt32} (known : commandID ∈ CommandId.all) {op : β → TeecParams}
    (agrees : ∀ value, Agrees commandID (op value)) {next : TeecParams → HostProgram α}
    (pures : ∀ op, ∃ value, next op = pure value) :
    Settles (openedSession failed
      (locals >>= fun value => invokedOnce commandID (op value) >>= next)) := by
  apply openedSession_settles
  intro client inSession
  apply Program.Obeys.bind
  refine (reads client).mono fun value last same => ?_
  subst same
  simp only [invokedOnce, bind_assoc, pure_bind]
  refine Program.obeys_call fun result => ⟨⟨inSession.phase, known, rfl, agrees value⟩, ?_⟩
  refine Program.obeys_call fun _ => ⟨rfl, Program.obeys_call fun _ => ⟨rfl, ?_⟩⟩
  obtain ⟨value, returns⟩ := pures result.2
  rw [returns]
  refine Program.obeys_pure ⟨rfl, ?_⟩
  exact (congrArg (· - 1) inSession.contexts).trans (Nat.add_sub_cancel ..)

theorem initialized_settles (failed : UInt32 → α) {commandID : UInt32}
    (known : commandID ∈ CommandId.all) {op : TeecParams} (agrees : Agrees commandID op)
    {next : TeecParams → HostProgram α} (pures : ∀ op, ∃ value, next op = pure value) :
    Settles (openedSession failed (invokedOnce commandID op >>= next)) :=
  @session_settles α Unit failed (pure ()) (fun _ => Program.obeys_pure rfl) commandID known
    (fun _ => op) (fun _ => agrees) next pures

theorem hostSeedCoil_settles : Settles hostSeedCoil := by
  refine initialized_settles _ (by decide) ?_ fun _ => ⟨_, rfl⟩
  exact agrees_of rfl trivial trivial trivial trivial fun signing => absurd signing (by decide)

theorem hostPrintAllCoilData_settles (seed : Seed) : Settles (hostPrintAllCoilData seed) := by
  refine session_settles _ uninitialized_obeys (by decide) (fun _ => ?_) fun _ => ⟨_, rfl⟩
  exact agrees_of rfl trivial trivial trivial trivial fun signing => absurd signing (by decide)

theorem hostGetDataByCoilAddress_settles (transactionId coilAddress : Int32) (coilValue : UInt8)
    (signature : ByteMemory) (signatureLen : Int32) :
    Settles (hostGetDataByCoilAddress transactionId coilAddress coilValue signature
      signatureLen) := by
  refine session_settles _ uninitialized_obeys (by decide) (fun _ => ?_) fun _ => ⟨_, rfl⟩
  exact agrees_of rfl trivial trivial trivial trivial fun _ => Nat.le_refl 512

theorem hostSetCoilData1_settles (transactionId coilAddress : Int32) (coilValue : UInt8)
    (signature : ByteMemory) (signatureLen : Int32) :
    Settles (hostSetCoilData1 transactionId coilAddress coilValue signature signatureLen) := by
  refine session_settles _ uninitialized_obeys (by decide) (fun _ => ?_) fun _ => ⟨_, rfl⟩
  exact agrees_of rfl trivial trivial trivial trivial fun signing => absurd signing (by decide)

theorem hostVerifyCoilData1_settles (transactionId : Int32) (coilValue : UInt8)
    (signature : ByteMemory) (signatureLen signatureVerified : Int32) :
    Settles (hostVerifyCoilData1 transactionId coilValue signature signatureLen
      signatureVerified) := by
  refine initialized_settles _ (by decide) ?_ fun _ => ⟨_, rfl⟩
  exact agrees_of rfl trivial trivial trivial trivial fun signing => absurd signing (by decide)

theorem hostSignCoilValue1_settles (transactionId : Int32) (coilValue : UInt8)
    (signature : ByteMemory) (signatureLen : Int32) :
    Settles (hostSignCoilValue1 transactionId coilValue signature signatureLen) := by
  refine session_settles _ uninitialized_obeys (by decide) (fun _ => ?_) fun _ => ⟨_, rfl⟩
  exact agrees_of rfl trivial trivial trivial trivial fun _ => Nat.le_refl 512

end Functions

/-- The functions that the agent exports, with their arguments. -/
inductive AgentCall where
  | seed
  | getDataByCoilAddress (transactionId coilAddress : Int32) (coilValue : UInt8)
      (signature : ByteMemory) (signatureLen : Int32)
  | verifyCoilData1 (transactionId : Int32) (coilValue : UInt8) (signature : ByteMemory)
      (signatureLen signatureVerified : Int32)
  | setCoilData1 (transactionId coilAddress : Int32) (coilValue : UInt8) (signature : ByteMemory)
      (signatureLen : Int32)
  | signCoilValue1 (transactionId : Int32) (coilValue : UInt8) (signature : ByteMemory)
      (signatureLen : Int32)
  | invCtrlGetDataByCoilAddress (transactionId coilAddress : Int32) (req : ByteMemory)
      (reqLength : Nat) (serverTamper : Int32)
  | invCtrlSetCoilData (transactionId coilAddress : Int32) (coilValue : UInt8)
      (signature : ByteMemory)
  | invCtrlVerifyCoilData (transactionId : Int32) (coilValue : UInt8) (signature : ByteMemory)
      (signatureLen : Int32)
  | invCtrlSignCoilValue (idHigh idLow valueHigh valueLow : UInt8) (req : ByteMemory)
      (reqLength : Nat) (clientTamper : Int32)

def AgentCall.program (initial : Seed) : AgentCall → HostProgram Unit
  | .seed => do
    let _ ← Agent.seed initial
  | .getDataByCoilAddress transactionId coilAddress coilValue signature signatureLen => do
    let _ ← Agent.getDataByCoilAddress transactionId coilAddress coilValue signature signatureLen
  | .verifyCoilData1 transactionId coilValue signature signatureLen signatureVerified => do
    let _ ← Agent.verifyCoilData1 transactionId coilValue signature signatureLen signatureVerified
  | .setCoilData1 transactionId coilAddress coilValue signature signatureLen => do
    let _ ← Agent.setCoilData1 transactionId coilAddress coilValue signature signatureLen
  | .signCoilValue1 transactionId coilValue signature signatureLen => do
    let _ ← Agent.signCoilValue1 transactionId coilValue signature signatureLen
  | .invCtrlGetDataByCoilAddress transactionId coilAddress req reqLength serverTamper => do
    let _ ← InvCtrl.invCtrlGetDataByCoilAddress transactionId coilAddress req reqLength serverTamper
  | .invCtrlSetCoilData transactionId coilAddress coilValue signature => do
    let _ ← InvCtrl.invCtrlSetCoilData transactionId coilAddress coilValue signature
  | .invCtrlVerifyCoilData transactionId coilValue signature signatureLen => do
    let _ ← InvCtrl.invCtrlVerifyCoilData transactionId coilValue signature signatureLen
  | .invCtrlSignCoilValue idHigh idLow valueHigh valueLow req reqLength clientTamper => do
    let _ ← InvCtrl.invCtrlSignCoilValue idHigh idLow valueHigh valueLow req reqLength clientTamper

/-- Somebody who calls the agent's functions one after the other. -/
def client (initial : Seed) : List AgentCall → HostProgram Unit
  | [] => pure ()
  | call :: rest => do
    call.program initial
    client initial rest

section Runs
variable (initial : Seed)

theorem program_settles (call : AgentCall) : Settles (call.program initial) := by
  have returns {β : Type} (value : β) : Settles (pure () : HostProgram Unit) := settles_pure ()
  cases call with
  | seed =>
    refine Settles.bind ?_ returns
    refine hostSeedCoil_settles.bind fun _ => ?_
    exact (hostPrintAllCoilData_settles initial).bind fun _ => settles_pure _
  | getDataByCoilAddress => exact (hostGetDataByCoilAddress_settles ..).bind returns
  | verifyCoilData1 => exact (hostVerifyCoilData1_settles ..).bind returns
  | setCoilData1 => exact (hostSetCoilData1_settles ..).bind returns
  | signCoilValue1 => exact (hostSignCoilValue1_settles ..).bind returns
  | invCtrlGetDataByCoilAddress =>
    refine Settles.bind (settles_uninitialized fun coilValue => ?_) returns
    exact (hostGetDataByCoilAddress_settles ..).bind fun _ => settles_pure _
  | invCtrlSetCoilData => exact (hostSetCoilData1_settles ..).bind returns
  | invCtrlVerifyCoilData =>
    refine Settles.bind ?_ returns
    exact (hostVerifyCoilData1_settles ..).bind fun _ => settles_pure _
  | invCtrlSignCoilValue =>
    refine Settles.bind ?_ returns
    exact (hostSignCoilValue1_settles ..).bind fun _ => settles_pure _

theorem client_settles (calls : List AgentCall) : Settles (client initial calls) := by
  induction calls with
  | nil => exact settles_pure ()
  | cons call rest ih => exact (program_settles initial call).bind fun _ => ih

/-- Whatever the client API replies to whatever the agent is asked to do: every call is in
order, nothing but contexts is left behind, and exactly one for every session that
could not be opened. -/
theorem client_discipline {S : Type} (handler : Handler TeecCall TeecCall.Reply S) (s : S)
    (calls : List AgentCall) :
    let events := (client initial calls).trace handler s
    let last := events.foldl Client.move Client.start
    Checked Client.move Client.Allows Client.start events ∧ last.phase = .idle ∧
      last.contexts = events.countP TeecEvent.Strands := by
  intro events last
  obtain ⟨checked, settled⟩ :=
    ((client_settles initial calls).obeys Client.start ⟨rfl, rfl⟩).trace handler s
  refine ⟨checked, settled.phase, settled.contexts.trans ?_⟩
  exact (strands_counted events Client.start).trans (Nat.zero_add _)

end Runs

end InvCtrl
