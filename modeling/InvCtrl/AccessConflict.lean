import InvCtrl.Linearizability
import InvCtrl.Attestation
import InvCtrl.StorageFailure

/-! What an open object does to the commands of other sessions. A command that is let
run alone comes to its end whatever the others hold. While one of them has the object
open, an overwrite fails on the way, and the answer does not show it. -/
namespace InvCtrl
open Interaction Execution Linearization

section Alone
variable {n : Nat} {env : Environment} {seed : Seed} {c d : Cluster n} {i : Fin n} {ticket : Nat}
  {request : Invocation}

variable (env seed) in
theorem run_enter (idle : (c.session i).running = none) (onCoil : request.OnCoil) :
    Run (cluster n env seed) c [(.enter i request, .entered c.next)] (c.enter env seed i request) :=
  Run.single (M := cluster n env seed) c (.enter i request) ⟨idle, onCoil⟩ rfl

variable (env seed) in
theorem run_call {made : TeeCall} {next : TeeCall.Reply made → TeeProgram (TeeResult × TeeParams)}
    (calls : (c.session i).running = some ⟨ticket, request, .call made next⟩) :
    Run (cluster n env seed) c [(.call i, .called)] (c.call env i) :=
  Run.single (M := cluster n env seed) c (.call i) ⟨ticket, request, made, next, calls⟩ rfl

variable (env seed) in
theorem run_leave {s : Tee} {result : TeeResult × TeeParams}
    (done : c.session i = ⟨s, some ⟨ticket, request, .done result⟩⟩) :
    Run (cluster n env seed) c [(.leave i, .left ticket (result, s.memory))]
      (c.setSession i ⟨s, none⟩) := by
  have left : (cluster n env seed).step c (.leave i) =
      (.left ticket (result, s.memory), c.setSession i ⟨s, none⟩) := by
    simp only [cluster, Cluster.step, done]
  have run := Run.single (M := cluster n env seed) c (.leave i)
    ⟨ticket, request, result, by rw [done]⟩ (congrArg Prod.fst left)
  rwa [left] at run

theorem conflict_congr (others : ∀ j, j ≠ i → d.session j = c.session j) (objectID : List UInt8) :
    d.conflict i objectID = c.conflict i objectID := by
  have same (j : Fin n) : (j != i && (d.session j).tee.holds objectID) =
      (j != i && (c.session j).tee.holds objectID) := by
    by_cases own : j = i
    · simp [own]
    · rw [others j own]
  simp only [Cluster.conflict, same]

theorem answer_congr (others : ∀ j, j ≠ i → d.session j = c.session j) :
    d.answer env i = c.answer env i := by
  funext made
  cases made with
  | createPersistentObject objectID | openPersistentObject objectID =>
    simp only [Cluster.answer, conflict_congr others objectID]
  | _ => rfl

theorem answer_unscheduled {made : TeeCall} (inner : ¬ made.Scheduled) :
    c.answer env i made = env.handler made := by
  cases made with
  | createPersistentObject | openPersistentObject => exact absurd rfl inner
  | _ => rfl

/-- The command of a session has come to its result, in this state. -/
def Cluster.finish (c : Cluster n) (i : Fin n) (ticket : Nat) (request : Invocation)
    (r : (TeeResult × TeeParams) × Tee) : Cluster n :=
  { c.setSession i ⟨r.2, some ⟨ticket, request, .done r.1⟩⟩ with store := r.2.store }

variable (seed ticket request) in
/-- Let run alone, a session runs the rest of its command as the others make it go. -/
theorem runs_alone (program : TeeProgram (TeeResult × TeeParams)) (s : Tee)
    (stands : let r := program.settle TeeCall.Scheduled env.handler s
      c.session i = ⟨r.2, some ⟨ticket, request, r.1⟩⟩ ∧ r.2.store = c.store) :
    ∃ history, Run (cluster n env seed) c history
        (c.finish i ticket request (program.run (c.answer env i) s)) ∧ events history = [] := by
  induction program generalizing c s with
  | done result =>
    obtain ⟨session, store⟩ := stands
    have same : c.finish i ticket request (result, s) = c := by
      have kept : Function.update c.session i ⟨s, some ⟨ticket, request, .done result⟩⟩ =
          c.session := Function.update_eq_self_iff.mpr session.symm
      simp only [Cluster.finish, Cluster.setSession, kept]
      rw [show s.store = c.store from store]
    refine ⟨[], ?_, rfl⟩
    rw [Program.run, same]
    exact .nil
  | call made next ih =>
    by_cases scheduled : made.Scheduled
    · rw [Program.settle_stopped TeeCall.Scheduled env.handler scheduled] at stands
      obtain ⟨session, store⟩ := stands
      have own : s.withStore c.store = s := by
        rw [← store]
        rfl
      let a := c.answer env i made s
      let r := c.resume env i next s
      let d : Cluster n :=
        { c.setSession i ⟨r.2, some ⟨ticket, request, r.1⟩⟩ with store := r.2.store }
      have reached : c.call env i = d := by
        rw [Cluster.call, session]
      have others (j : Fin n) (other : j ≠ i) : d.session j = c.session j :=
        Function.update_of_ne other ..
      have resumed : r = (next a.1).settle TeeCall.Scheduled env.handler a.2 := by
        simp only [r, Cluster.resume, own, a]
      obtain ⟨history, run, silent⟩ := ih a.1 a.2 (c := d)
        ⟨resumed ▸ Function.update_self .., congrArg (·.2.store) resumed.symm⟩
      have first := run_call env seed (c := c) (i := i) (congrArg Session.running session)
      rw [reached] at first
      have last : d.finish i ticket request ((next a.1).run (d.answer env i) a.2) =
          c.finish i ticket request ((next a.1).run (c.answer env i) a.2) := by
        rw [answer_congr others]
        simp only [Cluster.finish, Cluster.setSession, d, Function.update_idem]
      rw [last] at run
      exact ⟨_, first.append run, silent⟩
    · rw [Program.settle, if_neg scheduled] at stands
      rw [Program.run, answer_unscheduled scheduled]
      exact ih _ _ stands

end Alone

section Blocked
variable {n : Nat} {env : Environment} {seed : Seed} {c : Cluster n} {i : Fin n}
  {request : Invocation}

variable (env) in
/-- An overwrite that every open and every create refuses is answered as if it were done. -/
theorem Overwrites.blocked {result : TeeResult × TeeParams}
    {program : TeeProgram (TeeResult × TeeParams)} (overwrites : Overwrites result program)
    (conflict : c.conflict i filename = true) (s : Tee) :
    let r := program.run (c.answer env i) s
    r.1 = result ∧ r.2.store = s.store ∧ r.2.memory = s.memory := by
  induction program generalizing s with
  | done value => exact overwrites.elim
  | call made next ih =>
    have goesOn (keeps : made.Keeps) (rest : ∀ reply, Overwrites result (next reply)) :
        let r := (Program.call made next).run (c.answer env i) s
        r.1 = result ∧ r.2.store = s.store ∧ r.2.memory = s.memory := by
      obtain ⟨sameStore, sameMemory⟩ := answer_keeps (c := c) (i := i) keeps s
      obtain ⟨answer, store, memory⟩ := ih _ (rest _) (c.answer env i made s).2
      exact ⟨answer, store.trans sameStore, memory.trans sameMemory⟩
    cases made with
    | createPersistentObject objectID flags data =>
      obtain ⟨rfl, rest⟩ := overwrites
      let a := c.answer env i (.createPersistentObject filename flags data) s
      have refused : a = ((teeErrorAccessConflict, .indeterminate), s.storageCall) := by
        simp only [a, Cluster.answer, conflict, ↓reduceIte]
      obtain ⟨closes, always⟩ := rest a.1
      have kept := Program.run_frame (c.answer env i) (fun t => (t.store, t.memory))
        (fun made t closing => by
          rw [answer_blind closing.blind]
          exact Prod.ext (blind_store env t closing.blind) (closes_memory closing t)) closes a.2
      refine ⟨always.run _ a.2, (congrArg Prod.fst kept).trans ?_, (congrArg Prod.snd kept).trans ?_⟩
      · rw [refused]
        rfl
      · rw [refused]
        rfl
    | openPersistentObject | closeObject => exact goesOn trivial overwrites
    | readObjectData object buffer =>
      cases buffer with
      | stack => exact goesOn trivial overwrites
      | shared => exact overwrites.elim
    | _ => exact overwrites.elim

/-- The answer of a set that took effect. -/
def Invocation.accepted (request : Invocation) : Answer :=
  ((teeSuccess, { request.pParams with
    p3 := { request.pParams.p3 with a := (1 : Int32).toUInt32 } }), request.memory)

/-- While another session has the object open, a valid set reports 1 and changes nothing. -/
theorem blocked_set (succeeds : env.Succeeds)
    (command : request.nCommandID = CommandId.setDataByCoilAddress) (onCoil : request.OnCoil)
    (valid : env.crypto.valid (request.bytes request.pParams.p1)
      (request.bytes request.pParams.p2) = true)
    (idle : (c.session i).running = none) (conflict : c.conflict i filename = true) :
    ∃ history t, Run (cluster n env seed) c history t ∧ t.store = c.store ∧
      events history = [.invoke c.next request, .respond c.next request.accepted] := by
  let d := c.enter env seed i request
  obtain ⟨decided, memory, store⟩ :=
    enter_set_decided seed ((c.session i).tee.withStore c.store) succeeds command
  rw [if_pos valid] at decided
  generalize entered : (request.program seed).settle TeeCall.Scheduled env.handler
    (request.supply ((c.session i).tee.withStore c.store)) = r at decided memory store
  have others (j : Fin n) (other : j ≠ i) : d.session j = c.session j :=
    Function.update_of_ne other ..
  have own : d.session i = ⟨r.2, some ⟨c.next, request, r.1⟩⟩ := by
    rw [← entered]
    exact Function.update_self ..
  have waits : r.1.settle TeeCall.Scheduled env.handler r.2 = r := overwrites_settle decided r.2
  obtain ⟨calls, run, silent⟩ := runs_alone seed c.next request r.1 r.2 (c := d) (i := i)
    (by rw [waits]; exact ⟨own, store⟩)
  obtain ⟨answered, unchanged, untouched⟩ := decided.blocked env (c := d) (i := i)
    ((conflict_congr others filename).trans conflict) r.2
  generalize r.1.run (d.answer env i) r.2 = last at run answered unchanged untouched
  let t := d.finish i c.next request last
  have done : (t.session i) = ⟨last.2, some ⟨c.next, request, .done last.1⟩⟩ :=
    Function.update_self ..
  have leaving := run_leave env seed done
  have answer : (last.1, last.2.memory) = request.accepted :=
    Prod.ext answered (untouched.trans memory)
  rw [answer] at leaving
  refine ⟨_, _, ((run_enter env seed idle onCoil).append run).append leaving,
    unchanged.trans store, ?_⟩
  rw [events_append]
  exact congrArg (fun shown => .invoke c.next request :: shown ++ _) silent

end Blocked

section Lost
variable {n : Nat} {env : Environment} {seed : Seed} {c : Cluster n} {i j : Fin n}
  {get request : Invocation}

theorem holds_opened (s : Tee) (flags : DataFlags) :
    (s.storageCall.addObject (.persistent filename flags 0)).holds filename = true := by
  have added : (s.storageCall.addObject (.persistent filename flags 0)).objects s.next =
      some (.persistent filename flags 0) := Function.update_self ..
  refine List.any_eq_true.mpr ⟨s.next, List.mem_range.mpr (Nat.lt_succ_self _), ?_⟩
  rw [added]
  exact beq_self_eq_true filename

theorem reading_holds (succeeds : env.Succeeds)
    (command : get.nCommandID = CommandId.getDataByCoilAddress) (onCoil : get.OnCoil)
    (stored : (c.store filename).isSome) (idle : (c.session j).running = none)
    (free : c.conflict j filename = false) :
    ∃ d, Run (cluster n env seed) c [(.enter j get, .entered c.next), (.call j, .called)] d ∧
      (d.session j).tee.holds filename = true ∧ d.store = c.store ∧ d.next = c.next + 1 ∧
      ∀ k, k ≠ j → d.session k = c.session k := by
  obtain ⟨flags, next, opens, reads⟩ := program_reads seed command
  let s := get.supply ((c.session j).tee.withStore c.store)
  let d := c.enter env seed j get
  have others (k : Fin n) (other : k ≠ j) : d.session k = c.session k :=
    Function.update_of_ne other ..
  have own : d.session j = ⟨s, some ⟨c.next, get, .call (.openPersistentObject filename flags) next⟩⟩ := by
    simp only [d, Cluster.enter, Cluster.setSession, Function.update_self, opens]
    rfl
  have calling := run_call env seed (c := d) (i := j) (congrArg Session.running own)
  let held := s.storageCall.addObject (.persistent filename flags 0)
  have opened : d.answer env j (.openPersistentObject filename flags) (s.withStore c.store) =
      ((teeSuccess, .live s.next), held) := by
    simp only [Cluster.answer, conflict_congr others, free, Bool.false_eq_true, ↓reduceIte]
    exact openPersistentObject_opened ⟨succeeds.storage.result _, stored⟩ flags
  obtain ⟨buffer, size, rest, shape, _⟩ := reads (teeSuccess, .live s.next)
  have reached : d.call env j = { d.setSession j ⟨held, some ⟨c.next, get,
      .call (.readObjectData (.live s.next) buffer size) rest⟩⟩ with store := held.store } := by
    have store : d.store = c.store := rfl
    simp only [Cluster.call, own, Cluster.resume, store, opened, shape]
    rfl
  rw [reached] at calling
  refine ⟨_, (run_enter env seed idle onCoil).append calling, ?_, rfl, rfl, fun k other => ?_⟩
  · rw [show Cluster.session _ j = _ from Function.update_self ..]
    exact holds_opened s flags
  · exact (Function.update_of_ne other ..).trans (others k other)

/-- Nobody holds the object, and nobody has a command. -/
structure Cluster.Free (c : Cluster n) : Prop where
  idle : ∀ i, (c.session i).running = none
  holds : ∀ i, (c.session i).tee.holds filename = false

theorem Cluster.Free.conflict (free : c.Free) (i : Fin n) : c.conflict i filename = false :=
  List.any_eq_false.mpr fun j _ => by simp [free.holds j]

/-- On every store, a valid set to another value than the coil has is lost without a
trace if a read has the object open: no order of the commands explains the store. -/
theorem set_lost_under_read (succeeds : env.Succeeds) (free : c.Free) (apart : j ≠ i)
    (reads : get.nCommandID = CommandId.getDataByCoilAddress) (getOnCoil : get.OnCoil)
    (sets : request.nCommandID = CommandId.setDataByCoilAddress) (setOnCoil : request.OnCoil)
    (valid : env.crypto.valid (request.bytes request.pParams.p1)
      (request.bytes request.pParams.p2) = true)
    (stored : (c.store filename).isSome)
    (differs : Store.coil c.store ≠ (request.pParams.p0.b.toUInt8 ≠ 0 : Bool)) :
    ∃ history t, Run (cluster n env seed) c history t ∧
      ¬ Linearizable (serve env.crypto seed) c.store (events history) t.store := by
  obtain ⟨d, reading, holds, store, next, others⟩ :=
    reading_holds (j := j) succeeds reads getOnCoil stored (free.idle j) (free.conflict j)
  have conflict : d.conflict i filename = true :=
    List.any_eq_true.mpr ⟨j, List.mem_finRange j, by simp [apart, holds]⟩
  have idle : (d.session i).running = none := by
    rw [others i apart.symm]
    exact free.idle i
  obtain ⟨calls, t, setting, unchanged, shown⟩ :=
    blocked_set succeeds sets setOnCoil valid idle conflict
  refine ⟨_, t, reading.append setting, ?_⟩
  have whole : events ([(.enter j get, .entered c.next), (.call j, .called)] ++ calls) =
      [.invoke c.next get, .invoke d.next request, .respond d.next request.accepted] := by
    rw [events_append, shown]
    rfl
  rw [whole, unchanged, store]
  rintro ⟨order, linear⟩
  have served (commit : Commit Invocation Answer) (member : commit ∈ order) :
      (commit.ticket = c.next ∧ commit.request = get) ∨
        (commit.ticket = d.next ∧ commit.request = request) := by
    simpa using linear.invoked commit member
  obtain ⟨commit, member, ticket, _⟩ := linear.answered d.next request.accepted (by simp)
  have mine : commit.request = request := by
    rcases served commit member with ⟨other, _⟩ | ⟨_, same⟩
    · omega
    · exact same
  have effect (store : Store) := serve_set_coil env.crypto seed store sets valid
  refine differs (linear.explains.established
    (fun store => Store.coil store = (request.pParams.p0.b.toUInt8 ≠ 0 : Bool)) ?_ member ?_)
  · intro other inside store kept
    rcases served other inside with ⟨_, same⟩ | ⟨_, same⟩
    · rw [same, serve_get env.crypto seed store reads]
      exact kept
    · rw [same]
      exact effect store
  · intro store
    rw [mine]
    exact effect store

/-- The set reports 1 while a read of the other session has the coil open, and the
coil stays 0. -/
theorem not_linearizable_under_read :
    ∃ history t, Run (cluster 2 .reference .shipped) (.idle 2 (.holding [0x00])) history t ∧
      ¬ Linearizable (serve Crypto.reference .shipped) (Tee.holding [0x00]).store (events history)
        t.store := by
  have free : (Cluster.idle 2 (.holding [0x00])).Free := ⟨fun _ => rfl, fun _ => rfl⟩
  refine set_lost_under_read (j := 0) (i := 1) reference_succeeds free (by decide)
    (getCoil_command 7 0x13) (.inr (.inl ⟨getCoil_command 7 0x13, rfl⟩)) setOne_command
    (.inr (.inr ⟨setOne_command, setOne_mapped⟩)) (setOne_valid _ rfl) rfl ?_
  have coil : Store.coil (Tee.holding [0x00]).store = false := by
    rw [Store.coil, holding_store]
    rfl
  exact ne_of_eq_of_ne coil (by decide)

end Lost

end InvCtrl
