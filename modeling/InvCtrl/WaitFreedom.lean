import InvCtrl.Interference
import InvCtrl.Leftovers

/-! Sessions entered with any of the commands. However the storage calls of the sessions
alternate and whichever of them fail, each command comes to its answer after a number
of storage calls that its kind fixes; nobody else's step is waited for. -/
namespace InvCtrl
open Interaction Execution

/-- The sessions of a cluster, each free to be entered with any command. -/
def sessions (n : Nat) (env : Environment) (seed : Seed) : Machine (Cluster n) (Turn n) Shown where
  step := Cluster.step env seed
  admissible c
    | .enter i _ => (c.session i).running = none
    | .call i => c.admissible (.call i)
    | .leave i => c.admissible (.leave i)

instance (env : Environment) (seed : Seed) (c : Cluster n) (turn : Turn n) :
    Decidable ((sessions n env seed).admissible c turn) :=
  match turn with
  | .enter i _ => decidable_of_iff ((c.session i).running.isNone = true) Option.isNone_iff_eq_none
  | .call i => inferInstanceAs (Decidable (c.admissible (.call i)))
  | .leave i => inferInstanceAs (Decidable (c.admissible (.leave i)))

/-- The numbers of storage calls that a command can take: a set takes none when it refuses. -/
def Invocation.storageTurns (request : Invocation) : List Nat :=
  if request.nCommandID = CommandId.seedCoil then [2]
  else if request.nCommandID = CommandId.getAllCoilData then [3]
  else if request.nCommandID = CommandId.getDataByCoilAddress then [3]
  else if request.nCommandID = CommandId.setDataByCoilAddress then [0, 5]
  else [0]

section Programs
variable (seed : Seed) {counts : Nat → Prop}

theorem taOverwriteCoilWithData_takes (newCoilData : List UInt8) (newCoilDataLen : Nat) :
    (taOverwriteCoilWithData newCoilData newCoilDataLen).Takes TeeCall.Scheduled (· = 2) := by
  intro created closed
  rfl

theorem taGetAllCoilDataUnpacked_takes (buffer : Buffer) (size : Nat) (count : UInt32) :
    (taGetAllCoilDataUnpacked buffer size count).Takes TeeCall.Scheduled (· = 3) := by
  intro opened data closed
  rfl

theorem taVerify_goes (dataToSign : Buffer) (dataLen : Nat) (signaturePtr signatureLen : UInt32)
    (signatureVerified : Int32) :
    (taVerify dataToSign dataLen signaturePtr signatureLen signatureVerified).Uses
      fun call => ¬ call.Scheduled :=
  (taVerify_quiet _ _ _ _ _).mono fun _ => TeeCall.Quiet.unscheduled

theorem taSign_goes (dataToSign : Buffer) (dataLen : Nat) (signaturePtr signatureLen : UInt32) :
    (taSign dataToSign dataLen signaturePtr signatureLen).Uses fun call => ¬ call.Scheduled :=
  taSign_uses _ _ _ _ ((taDigestAndKeys_quiet _ _).mono fun _ => TeeCall.Quiet.unscheduled)
    (fun _ _ _ => (armOperation_quiet _ _ _).mono fun _ => TeeCall.Quiet.unscheduled)
    (fun _ _ _ _ => Bool.false_ne_true) (fun _ _ => Bool.false_ne_true)
    fun _ => Bool.false_ne_true

/-- Reading the coils and then signing or overwriting, call by call. -/
theorem program_takes (request : Invocation) :
    (request.program seed).Takes TeeCall.Scheduled (· ∈ request.storageTurns) := by
  have dispatch := program_dispatch seed request
  generalize request.program seed = program at dispatch ⊢
  cases dispatch with
  | seedCoil command =>
    rw [Invocation.storageTurns, if_pos command]
    refine (taOverwriteCoilWithData_takes _ _).bind fun res count taken => ?_
    simp [taken]
  | getAllCoilData command =>
    refine (taGetAllCoilDataUnpacked_takes _ _ _).bind fun res count taken => ?_
    simp [Invocation.storageTurns, command, CommandId.getAllCoilData, CommandId.seedCoil, taken]
  | getDataByCoilAddress command =>
    refine (taGetAllCoilDataUnpacked_takes _ _ _).bind fun read count taken => ?_
    refine .after_going (taSign_goes _ _ _ _) fun signed => ?_
    simp [Invocation.storageTurns, command, CommandId.getDataByCoilAddress,
      CommandId.getAllCoilData, CommandId.seedCoil, taken]
  | setDataByCoilAddress command =>
    have turns : request.storageTurns = [0, 5] := by
      simp [Invocation.storageTurns, command, CommandId.setDataByCoilAddress,
        CommandId.getDataByCoilAddress, CommandId.getAllCoilData, CommandId.seedCoil]
    rw [turns]
    refine .after_going (taVerify_goes _ _ _ _ _) fun verified => ?_
    by_cases refused : verified.2 = -1
    · simp [refused]
    · simp only [if_neg refused]
      refine (taGetAllCoilDataUnpacked_takes _ _ _).bind fun read count taken => ?_
      refine (taOverwriteCoilWithData_takes _ _).bind fun res more written => ?_
      simp [taken, written]
  | verifyCoilData command =>
    refine .after_going (taVerify_goes _ _ _ _ _) fun verified => ?_
    simp [Invocation.storageTurns, command, CommandId.verifyCoilData,
      CommandId.setDataByCoilAddress, CommandId.getDataByCoilAddress, CommandId.getAllCoilData,
      CommandId.seedCoil]
  | signCoilData command =>
    refine .after_going (taSign_goes _ _ _ _) fun signed => ?_
    simp [Invocation.storageTurns, command, CommandId.signCoilData,
      CommandId.setDataByCoilAddress, CommandId.getDataByCoilAddress, CommandId.getAllCoilData,
      CommandId.seedCoil]
  | unknown command =>
    simp only [CommandId.all, List.mem_cons, List.not_mem_nil, or_false, not_or] at command
    simp [Invocation.storageTurns, command]

end Programs

section Pace
variable {n : Nat} {env : Environment} {seed : Seed} {start c : Cluster n}
  {history : History (Turn n) Shown} {i : Fin n}

/-- How a turn changes what a session is in: its command and the calls given to it. -/
def Turn.account (i : Fin n) (account : Option (Invocation × Nat)) :
    Turn n → Option (Invocation × Nat)
  | .enter j request => if j = i then some (request, 0) else account
  | .call j => if j = i then account.map fun (request, calls) => (request, calls + 1) else account
  | .leave j => if j = i then none else account

/-- The command that a session is in, with its storage calls so far. -/
def given (i : Fin n) (history : History (Turn n) Shown) : Option (Invocation × Nat) :=
  history.foldl (fun account event => event.1.account i account) none

theorem given_snoc (history : History (Turn n) Shown) (turn : Turn n) (shown : Shown) :
    given i (history ++ [(turn, shown)]) = turn.account i (given i history) := by
  rw [given, List.foldl_append]
  rfl

/-- What a session runs is what its account says, with the rest of the calls ahead. -/
inductive Paced : Option Running → Option (Invocation × Nat) → Prop where
  | idle : Paced none none
  | busy {ticket calls : Nat} {request : Invocation} {program : TeeProgram (TeeResult × TeeParams)}
      (stopped : program.Stopped TeeCall.Scheduled)
      (takes : program.Takes TeeCall.Scheduled fun more => calls + more ∈ request.storageTurns) :
      Paced (some ⟨ticket, request, program⟩) (some (request, calls))

theorem Paced.enter (s : Tee) (ticket : Nat) (request : Invocation) :
    Paced (some ⟨ticket, request,
      ((request.program seed).settle TeeCall.Scheduled env.handler s).1⟩) (some (request, 0)) := by
  refine .busy (Program.stopped_settle _ _ _ _) ?_
  apply ((program_takes seed request).settle env.handler s).mono
  intro count taken
  rwa [Nat.zero_add]

theorem Paced.resume {ticket : Nat} {request : Invocation} {made : TeeCall}
    {next : TeeCall.Reply made → TeeProgram (TeeResult × TeeParams)}
    {account : Option (Invocation × Nat)}
    (paced : Paced (some ⟨ticket, request, .call made next⟩) account)
    (reply : TeeCall.Reply made) (s : Tee) :
    Paced (some ⟨ticket, request, ((next reply).settle TeeCall.Scheduled env.handler s).1⟩)
      (account.map fun (request, calls) => (request, calls + 1)) := by
  cases paced with
  | busy stopped takes =>
    refine .busy (Program.stopped_settle _ _ _ _) ?_
    have stopping : made.Scheduled := stopped
    have rest := (Program.takes_stopping stopping next).mp takes reply
    apply (rest.settle env.handler s).mono
    intro more counted
    rwa [Nat.add_right_comm]

theorem run_paced (idle : ∀ i, (start.session i).running = none)
    (run : Run (sessions n env seed) start history c) :
    ∀ i, Paced (c.session i).running (given i history) := by
  apply run.invariant fun history c => ∀ i, Paced (c.session i).running (given i history)
  · intro i
    rw [idle i]
    exact .idle
  · intro history c turn _ paced allowed i
    rw [given_snoc]
    cases turn with
    | enter j request =>
      by_cases own : j = i
      · subst own
        simp only [sessions, Cluster.step, Cluster.enter, Cluster.setSession, Turn.account,
          Function.update_self, ↓reduceIte]
        exact .enter _ _ request
      · have other : i ≠ j := fun same => own same.symm
        simp only [sessions, Cluster.step, Cluster.enter, Cluster.setSession, Turn.account, own,
          Function.update_of_ne other, ↓reduceIte]
        exact paced i
    | call j =>
      obtain ⟨ticket, request, made, next, calls⟩ := allowed
      by_cases own : j = i
      · subst own
        have ahead := paced j
        rw [calls] at ahead
        simp only [sessions, Cluster.step, Cluster.call, calls, Cluster.setSession, Turn.account,
          Function.update_self, ↓reduceIte]
        exact ahead.resume _ _
      · have other : i ≠ j := fun same => own same.symm
        simp only [sessions, Cluster.step, Cluster.call, calls, Cluster.setSession, Turn.account,
          own, Function.update_of_ne other, ↓reduceIte]
        exact paced i
    | leave j =>
      obtain ⟨ticket, request, result, done⟩ := allowed
      by_cases own : j = i
      · subst own
        simp only [sessions, Cluster.step, done, Cluster.setSession, Turn.account,
          Function.update_self, ↓reduceIte]
        exact .idle
      · have other : i ≠ j := fun same => own same.symm
        simp only [sessions, Cluster.step, done, Cluster.setSession, Turn.account, own,
          Function.update_of_ne other, ↓reduceIte]
        exact paced i

instance (made : TeeCall) : Nonempty (TeeCall.Reply made) :=
  ⟨(Environment.reference.handler made .fresh).1⟩

/-- A command that is under way can go on at once: with its answer if it has it, else
with a storage call. It has its answer after as many calls of its own as its kind
takes, five at most. -/
theorem commands_wait_free (idle : ∀ i, (start.session i).running = none)
    (run : Run (sessions n env seed) start history c) (i : Fin n) (request : Invocation)
    (calls : Nat) (entered : given i history = some (request, calls)) :
    let M := sessions n env seed
    (M.admissible c (.call i) ∨ M.admissible c (.leave i)) ∧ calls ≤ 5 ∧
      (M.admissible c (.call i) → ∃ count ∈ request.storageTurns, calls < count) ∧
      (M.admissible c (.leave i) → calls ∈ request.storageTurns) := by
  intro M
  have paced := run_paced idle run i
  rw [entered] at paced
  generalize current : (c.session i).running = running at paced
  cases paced with
  | @busy ticket _ _ program stopped takes =>
    have bound (count : Nat) (taken : count ∈ request.storageTurns) : count ≤ 5 := by
      revert taken
      unfold Invocation.storageTurns
      split_ifs <;> simp <;> omega
    cases program with
    | done result =>
      refine ⟨.inr ⟨ticket, request, result, current⟩, bound calls takes, ?_, fun _ => takes⟩
      rintro ⟨_, _, _, _, calling⟩
      exact absurd (current.symm.trans calling) (by simp)
    | call made next =>
      have stopping : made.Scheduled := stopped
      obtain ⟨reply⟩ : Nonempty (TeeCall.Reply made) := inferInstance
      obtain ⟨more, counted⟩ := ((Program.takes_stopping stopping next).mp takes reply).some_count
      refine ⟨.inl ⟨ticket, request, made, next, current⟩, ?_, ?_, ?_⟩
      · have := bound _ counted
        omega
      · exact fun _ => ⟨_, counted, by omega⟩
      · rintro ⟨_, _, _, leaving⟩
        exact absurd (current.symm.trans leaving) (by simp)

theorem seeds_overlap :
    ∃ c, Run (sessions 2 .reference .shipped) (.idle 2 (.holding [0x80]))
      [(.enter 1 (.plain CommandId.seedCoil), .entered 0),
        (.enter 0 (.plain CommandId.seedCoil), .entered 1), (.call 0, .called)] c := by
  let request : Invocation := .plain CommandId.seedCoil
  let c : Cluster 2 := .idle 2 (.holding [0x80])
  let d := c.enter .reference .shipped 1 request
  let e := d.enter .reference .shipped 0 request
  have starts : (e.session 0).running = some ⟨1, request, request.program .shipped⟩ := by
    have stopped := starts_stopped .reference .shipped
      (request.supply ((d.session 0).tee.withStore d.store)) (.inl (rfl : request.nCommandID = _))
    exact congrArg (fun r => some (Running.mk 1 request r.1)) stopped
  have first := Run.single (M := sessions 2 .reference .shipped) c (.enter 1 request) rfl rfl
  have second := first.snoc (.enter 0 request) rfl
  exact ⟨_, second.snoc (.call 0) ⟨_, _, _, _, starts⟩⟩

/-- The seed that was overtaken can still go on. -/
theorem commands_wait_free_shipped :
    ∃ history c, Run (sessions 2 .reference .shipped) (.idle 2 (.holding [0x80])) history c ∧
      ((sessions 2 .reference .shipped).admissible c (.call 1) ∨
        (sessions 2 .reference .shipped).admissible c (.leave 1)) := by
  obtain ⟨c, run⟩ := seeds_overlap
  obtain ⟨goes, _⟩ := commands_wait_free (fun _ => rfl) run 1 (.plain CommandId.seedCoil) 0 rfl
  exact ⟨_, c, run, goes⟩

end Pace

end InvCtrl
