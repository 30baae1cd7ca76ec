import InvCtrl.Leftovers

/-! Concurrent commands explained by a sequential order. A read has its effect when it
reads, a seed and an accepted set when they overwrite, a refused set when it enters.
The order grows with these moments as long as no open and no create meets an object that
another session holds, and no overwrite is given bytes that are out of date. -/
namespace InvCtrl
open Interaction Execution Linearization

section Conditions
variable {n : Nat} (crypto : Crypto) (seed : Seed) (c : Cluster n)

/-- The next call of a session meets no conflict, and if it overwrites the object, then
with what the command would write that ran alone now. -/
structure Cluster.Undisturbed (i : Fin n) : Prop where
  opens : ∀ ticket request objectID flags next, (c.session i).running =
      some ⟨ticket, request, .call (.openPersistentObject objectID flags) next⟩ →
    c.conflict i objectID = false
  creates : ∀ ticket request objectID flags data next, (c.session i).running =
      some ⟨ticket, request, .call (.createPersistentObject objectID flags data) next⟩ →
    c.conflict i objectID = false ∧ (serve crypto seed c.store request).2 objectID = some data

/-- The same, computed. -/
def Cluster.undisturbed (i : Fin n) : Bool :=
  match (c.session i).running with
  | some ⟨_, _, .call (.openPersistentObject objectID _) _⟩ => ! c.conflict i objectID
  | some ⟨_, request, .call (.createPersistentObject objectID _ data) _⟩ =>
    ! c.conflict i objectID && (serve crypto seed c.store request).2 objectID == some data
  | _ => true

theorem undisturbed_iff (i : Fin n) :
    c.undisturbed crypto seed i = true ↔ c.Undisturbed crypto seed i := by
  constructor
  · intro undisturbed
    constructor
    · intro _ _ _ _ _ calls
      simpa [Cluster.undisturbed, calls] using undisturbed
    · intro _ _ _ _ _ _ calls
      simpa [Cluster.undisturbed, calls] using undisturbed
  · intro undisturbed
    unfold Cluster.undisturbed
    split
    · next calls => simp [undisturbed.opens _ _ _ _ _ calls]
    · next calls => simp [undisturbed.creates _ _ _ _ _ _ calls]
    · rfl

instance (i : Fin n) : Decidable (c.Undisturbed crypto seed i) :=
  decidable_of_iff _ (undisturbed_iff crypto seed c i)

/-- The cluster under schedules that disturb no call. -/
def orderly (n : Nat) (env : Environment) (seed : Seed) : Machine (Cluster n) (Turn n) Shown :=
  (cluster n env seed).within fun c turn => ∀ i, turn = .call i → c.Undisturbed env.crypto seed i

instance (env : Environment) (turn : Turn n) : Decidable ((orderly n env seed).admissible c turn) :=
  match turn with
  | .call i => decidable_of_iff (c.admissible (.call i) ∧ c.Undisturbed env.crypto seed i)
      ⟨fun both => ⟨both.1, fun _ same => by cases same; exact both.2⟩,
        fun both => ⟨both.1, both.2 i rfl⟩⟩
  | .enter i request => decidable_of_iff (c.admissible (.enter i request))
      ⟨fun enters => ⟨enters, fun _ same => by cases same⟩, And.left⟩
  | .leave i => decidable_of_iff (c.admissible (.leave i))
      ⟨fun leaves => ⟨leaves, fun _ same => by cases same⟩, And.left⟩

end Conditions

section Histories
variable {n : Nat}

theorem events_append (before after : History (Turn n) Shown) :
    events (before ++ after) = events before ++ events after := List.filterMap_append

/-- Invoked, and not answered yet. -/
def Underway (ticket : Nat) (shown : List (Event Invocation Answer)) : Prop :=
  (∃ request, .invoke ticket request ∈ shown) ∧ ∀ answer, .respond ticket answer ∉ shown

end Histories

section Stages
variable {env : Environment} {seed : Seed} {store store' : Store} {request : Invocation} {s : Tee}
  {program : TeeProgram (TeeResult × TeeParams)}

/-- What is ahead of a command stays ahead of it, whatever the others write. -/
theorem Pending.later (pending : Pending env seed store request program s)
    (present : (store filename).isSome → (store' filename).isSome) :
    Pending env seed store' request program s := by
  cases pending with
  | opening reads leads keeps => exact .opening reads leads keeps
  | reading found blind leads keeps => exact .reading (present found) blind leads keeps
  | writing overwrites answers writes memory => exact .writing overwrites answers writes memory

variable (env seed) in
/-- A command on its way, seen from the order: not committed and with everything ahead,
or committed and bound to lead to the answer of its commit. -/
structure Progress (shown : List (Event Invocation Answer)) (order : List (Commit Invocation Answer))
    (store : Store) (running : Running) (s : Tee) : Prop where
  invoked : .invoke running.ticket running.request ∈ shown
  stage : ((∀ commit ∈ order, commit.ticket ≠ running.ticket) ∧
      Pending env seed store running.request running.program s) ∨
    ∃ commit ∈ order, commit.ticket = running.ticket ∧ Settled env commit.answer running.program s

theorem Progress.later {shown shown' : List (Event Invocation Answer)}
    {order order' : List (Commit Invocation Answer)} {running : Running}
    (progress : Progress env seed shown order store running s) (shows : ∀ e ∈ shown, e ∈ shown')
    (grown : ∀ commit ∈ order, commit ∈ order')
    (apart : ∀ commit ∈ order', commit ∈ order ∨ commit.ticket ≠ running.ticket)
    (present : (store filename).isSome → (store' filename).isSome) :
    Progress env seed shown' order' store' running s := by
  refine ⟨shows _ progress.invoked, ?_⟩
  rcases progress.stage with ⟨fresh, pending⟩ | ⟨commit, member, same, settled⟩
  · refine .inl ⟨fun commit member => ?_, pending.later present⟩
    rcases apart commit member with before | other
    · exact fresh commit before
    · exact other
  · exact .inr ⟨commit, grown commit member, same, settled⟩

end Stages

section Runs
variable {n : Nat} (env : Environment) (seed : Seed) (start : Cluster n)

/-- The ticket of the command that a session has. -/
def Cluster.ticket (c : Cluster n) (i : Fin n) : Option Nat := (c.session i).running.map (·.ticket)

/-- The answer is the one that the command would have given alone, at a moment between
its invocation and its answer. -/
def Timely (history : History (Turn n) Shown) (commit : Commit Invocation Answer) : Prop :=
  ∃ before after u, history = before ++ after ∧ Run (orderly n env seed) start before u ∧
    Underway commit.ticket (events before) ∧
      commit.answer = (serve env.crypto seed u.store commit.request).1

/-- The order explains the history up to here, and accounts for every command on its way. -/
structure Explained (history : History (Turn n) Shown) (c : Cluster n)
    (order : List (Commit Invocation Answer)) : Prop where
  linear : Linearizes (serve env.crypto seed) start.store (events history) order c.store
  issued : ∀ ticket request, .invoke ticket request ∈ events history → ticket < c.next
  progress : ∀ i running, (c.session i).running = some running →
    Progress env seed (events history) order c.store running (c.session i).tee
  apart : ∀ i j ticket, c.ticket i = some ticket → c.ticket j = some ticket → i = j
  timely : ∀ commit ∈ order, Timely env seed start history commit

variable {env seed start} {history : History (Turn n) Shown} {c : Cluster n}
  {order : List (Commit Invocation Answer)} {i : Fin n} {ticket : Nat} {request : Invocation}

theorem Timely.snoc {commit : Commit Invocation Answer} (timely : Timely env seed start history commit)
    (event : Turn n × Shown) : Timely env seed start (history ++ [event]) commit := by
  obtain ⟨before, after, u, split, run, underway, answer⟩ := timely
  exact ⟨before, after ++ [event], u, by rw [split, List.append_assoc], run, underway, answer⟩

theorem Explained.timely_snoc (explained : Explained env seed start history c order)
    (event : Turn n × Shown) : ∀ commit ∈ order, Timely env seed start (history ++ [event]) commit :=
  fun commit member => (explained.timely commit member).snoc event

theorem Explained.timely_commit (explained : Explained env seed start history c order)
    (event : Turn n × Shown) {last : Commit Invocation Answer}
    (timely : Timely env seed start (history ++ [event]) last) :
    ∀ commit ∈ order ++ [last], Timely env seed start (history ++ [event]) commit := by
  intro commit member
  rcases List.mem_append.mp member with earlier | newest
  · exact explained.timely_snoc event commit earlier
  · rw [List.mem_singleton.mp newest]
    exact timely

theorem apart_commit {last : Commit Invocation Answer} :
    ∀ commit ∈ order ++ [last], commit ∈ order ∨ commit.ticket = last.ticket := by
  intro commit member
  rcases List.mem_append.mp member with earlier | newest
  · exact .inl earlier
  · exact .inr (by rw [List.mem_singleton.mp newest])

theorem Explained.underway (explained : Explained env seed start history c order)
    (invoked : .invoke ticket request ∈ events history)
    (fresh : ∀ commit ∈ order, commit.ticket ≠ ticket) : Underway ticket (events history) := by
  refine ⟨⟨request, invoked⟩, fun answer shown => ?_⟩
  obtain ⟨commit, member, same, _⟩ := explained.linear.answered ticket answer shown
  exact fresh commit member same

theorem serve_present (crypto : Crypto) (store : Store)
    (present : (store filename).isSome) : ((serve crypto seed store request).2 filename).isSome := by
  simp only [serve]
  split
  · simp
  · split
    · exact present
    · split
      · simp
      · exact present

theorem Explained.moved (explained : Explained env seed start history c order)
    {event : Turn n × Shown} (silent : events [event] = []) {store : Store} {s : Tee}
    {before : Running} (was : (c.session i).running = some before) (after : Running)
    (same : after.ticket = before.ticket) {order' : List (Commit Invocation Answer)}
    (linear : Linearizes (serve env.crypto seed) start.store (events history) order' store)
    (stage : Progress env seed (events history) order' store after s)
    (grown : ∀ commit ∈ order, commit ∈ order')
    (apart : ∀ commit ∈ order', commit ∈ order ∨ commit.ticket = before.ticket)
    (present : (c.store filename).isSome → (store filename).isSome)
    (timely : ∀ commit ∈ order', Timely env seed start (history ++ [event]) commit) :
    Explained env seed start (history ++ [event])
      { c.setSession i ⟨s, some after⟩ with store := store } order' := by
  have shown : events (history ++ [event]) = events history := by
    rw [events_append, silent, List.append_nil]
  constructor
  case linear => rwa [shown]
  case issued => rw [shown]; exact explained.issued
  case timely => exact timely
  case progress =>
    intro j running found
    rw [shown]
    by_cases own : j = i
    · subst own
      simp only [Cluster.setSession, Function.update_self] at found ⊢
      cases found
      exact stage
    · simp only [Cluster.setSession, Function.update_of_ne own] at found ⊢
      refine (explained.progress j running found).later (fun _ => id) grown (fun commit member => ?_)
        present
      refine (apart commit member).imp_right fun mine other => own ?_
      refine explained.apart j i commit.ticket ?_ ?_
      · rw [Cluster.ticket, found, other]
        rfl
      · rw [Cluster.ticket, was, mine]
        rfl
  case apart =>
    have unchanged : ({ c.setSession i ⟨s, some after⟩ with store := store } : Cluster n).ticket =
        c.ticket := by
      funext j
      by_cases own : j = i
      · subst own
        simp [Cluster.ticket, Cluster.setSession, was, same]
      · simp [Cluster.ticket, Cluster.setSession, own]
    rw [unchanged]
    exact explained.apart

theorem Explained.stays (explained : Explained env seed start history c order)
    {event : Turn n × Shown} (silent : events [event] = []) {s : Tee} {before : Running}
    (was : (c.session i).running = some before) (after : Running)
    (same : after.ticket = before.ticket)
    (stage : Progress env seed (events history) order c.store after s) :
    Explained env seed start (history ++ [event]) (c.setSession i ⟨s, some after⟩) order :=
  explained.moved silent was after same explained.linear stage (fun _ => id) (fun _ => .inl) id
    (explained.timely_snoc event)

theorem Explained.committed (explained : Explained env seed start history c order)
    (run : Run (orderly n env seed) start history c) {event : Turn n × Shown}
    (silent : events [event] = []) {s : Tee} {before : Running}
    (was : (c.session i).running = some before) (after : Running)
    (same : after.ticket = before.ticket)
    (invoked : .invoke before.ticket request ∈ events history)
    (fresh : ∀ commit ∈ order, commit.ticket ≠ before.ticket)
    (stage : Progress env seed (events history)
      (order ++ [⟨before.ticket, request, (serve env.crypto seed c.store request).1⟩])
      (serve env.crypto seed c.store request).2 after s) :
    Explained env seed start (history ++ [event])
      { c.setSession i ⟨s, some after⟩ with store := (serve env.crypto seed c.store request).2 }
      (order ++ [⟨before.ticket, request, (serve env.crypto seed c.store request).1⟩]) := by
  have timely : Timely env seed start (history ++ [event])
      ⟨before.ticket, request, (serve env.crypto seed c.store request).1⟩ :=
    ⟨history, _, c, rfl, run, explained.underway invoked fresh, rfl⟩
  exact explained.moved silent was after same (explained.linear.commit invoked fresh) stage
    (fun _ => List.mem_append_left _) apart_commit (serve_present env.crypto c.store)
    (explained.timely_commit event timely)

/-- An undisturbed call: the order stays, or the command is committed now. -/
theorem Explained.call (explained : Explained env seed start history c order)
    (succeeds : env.Succeeds) (run : Run (orderly n env seed) start history c)
    {made : TeeCall} {next : TeeCall.Reply made → TeeProgram (TeeResult × TeeParams)}
    (calls : (c.session i).running = some ⟨ticket, request, .call made next⟩)
    (undisturbed : c.Undisturbed env.crypto seed i) :
    ∃ order', Explained env seed start (history ++ [(.call i, .called)]) (c.call env i) order' := by
  let r := c.resume env i next (c.session i).tee
  let after : Running := ⟨ticket, request, r.1⟩
  have reached : c.call env i =
      { c.setSession i ⟨r.2, some after⟩ with store := r.2.store } := by
    rw [Cluster.call, calls]
  rw [reached]
  obtain ⟨invoked, ⟨fresh, pending⟩ | ⟨commit, member, same, settled⟩⟩ :=
    explained.progress i _ calls
  · have opens (objectID : List UInt8) (flags : DataFlags)
        (opening : made = .openPersistentObject objectID flags) :
        c.conflict i objectID = false := by
      subst opening
      exact undisturbed.opens _ _ _ _ _ calls
    have creates (objectID : List UInt8) (flags : DataFlags) (data : List UInt8)
        (creating : made = .createPersistentObject objectID flags data) :
        c.conflict i objectID = false ∧
          (serve env.crypto seed c.store request).2 objectID = some data := by
      subst creating
      exact undisturbed.creates _ _ _ _ _ _ calls
    rcases pending.step succeeds opens creates with ⟨ahead, store⟩ | ⟨settled, store⟩
    · rw [show r.2.store = c.store from store]
      exact ⟨order, explained.stays rfl calls after rfl ⟨invoked, .inl ⟨fresh, ahead⟩⟩⟩
    · rw [show r.2.store = _ from store]
      refine ⟨_, explained.committed run rfl calls after rfl invoked fresh ⟨invoked, .inr ?_⟩⟩
      exact ⟨_, List.mem_append_right _ List.mem_cons_self, rfl, settled⟩
  · obtain ⟨still, store⟩ := settled.step (c := c) (i := i)
    rw [show r.2.store = c.store from store]
    refine ⟨order, explained.stays rfl calls after rfl ⟨invoked, .inr ?_⟩⟩
    exact ⟨commit, member, same, still⟩

theorem Explained.leave (explained : Explained env seed start history c order)
    {result : TeeResult × TeeParams}
    (done : (c.session i).running = some ⟨ticket, request, .done result⟩) :
    Explained env seed start
      (history ++ [(.leave i, .left ticket (result, (c.session i).tee.memory))])
      (c.setSession i ⟨(c.session i).tee, none⟩) order := by
  have shown : events (history ++ [(.leave i, .left ticket (result, (c.session i).tee.memory))]) =
      events history ++ [.respond ticket (result, (c.session i).tee.memory)] := events_append _ _
  obtain ⟨commit, member, same, answer⟩ : ∃ commit ∈ order, commit.ticket = ticket ∧
      commit.answer = (result, (c.session i).tee.memory) := by
    rcases (explained.progress i _ done).stage with ⟨_, pending⟩ | ⟨commit, member, same, settled⟩
    · generalize whole : (Program.done result : TeeProgram _) = program at pending
      cases pending with
      | opening | reading => cases whole
      | writing overwrites =>
        subst whole
        exact overwrites.elim
    · exact ⟨commit, member, same, settled.leads.symm⟩
  have others (j : Fin n) (running : Running)
      (found : ((c.setSession i ⟨(c.session i).tee, none⟩).session j).running = some running) :
      j ≠ i ∧ (c.setSession i ⟨(c.session i).tee, none⟩).session j = c.session j := by
    by_cases own : j = i
    · subst own
      simp [Cluster.setSession] at found
    · exact ⟨own, by simp [Cluster.setSession, own]⟩
  constructor
  case linear =>
    rw [shown, ← same, ← answer]
    exact explained.linear.respond member
  case issued =>
    intro other invocation invoked
    rw [shown, List.mem_append] at invoked
    rcases invoked with before | last
    · exact explained.issued other invocation before
    · cases List.mem_singleton.mp last
  case progress =>
    intro j running found
    obtain ⟨_, unchanged⟩ := others j running found
    rw [unchanged] at found ⊢
    rw [shown]
    exact (explained.progress j running found).later (fun _ => List.mem_append_left _) (fun _ => id)
      (fun _ => .inl) id
  case apart =>
    intro j k other left right
    obtain ⟨running, found, _⟩ := Option.map_eq_some_iff.mp left
    obtain ⟨running', found', _⟩ := Option.map_eq_some_iff.mp right
    rw [Cluster.ticket, (others j running found).2] at left
    rw [Cluster.ticket, (others k running' found').2] at right
    exact explained.apart j k other left right
  case timely => exact explained.timely_snoc _

theorem Explained.ticket_issued (explained : Explained env seed start history c order)
    (has : c.ticket i = some ticket) : ticket < c.next := by
  obtain ⟨running, found, rfl⟩ := Option.map_eq_some_iff.mp has
  exact explained.issued _ _ (explained.progress i running found).invoked

theorem enter_ticket : (c.enter env seed i request).ticket =
    Function.update c.ticket i (some c.next) := by
  funext j
  by_cases own : j = i
  · subst own
    simp [Cluster.ticket, Cluster.enter, Cluster.setSession]
  · simp [Cluster.ticket, Cluster.enter, Cluster.setSession, own]

theorem apart_update {tickets : Fin n → Option Nat}
    (apart : ∀ i j ticket, tickets i = some ticket → tickets j = some ticket → i = j)
    (fresh : ∀ j, tickets j ≠ some ticket) (j k : Fin n) (shared : Nat)
    (left : Function.update tickets i (some ticket) j = some shared)
    (right : Function.update tickets i (some ticket) k = some shared) : j = k := by
  by_cases first : j = i <;> by_cases second : k = i
  · exact first.trans second.symm
  · subst first
    rw [Function.update_self] at left
    rw [Function.update_of_ne second] at right
    exact absurd (right.trans left.symm) (fresh k)
  · subst second
    rw [Function.update_of_ne first] at left
    rw [Function.update_self] at right
    exact absurd (left.trans right.symm) (fresh j)
  · rw [Function.update_of_ne first] at left
    rw [Function.update_of_ne second] at right
    exact apart j k shared left right

theorem Explained.entered (explained : Explained env seed start history c order)
    {order' : List (Commit Invocation Answer)}
    (linear : Linearizes (serve env.crypto seed) start.store
      (events history ++ [.invoke c.next request]) order' c.store)
    (stage : ∀ running, ((c.enter env seed i request).session i).running = some running →
      Progress env seed (events history ++ [.invoke c.next request]) order' c.store running
        ((c.enter env seed i request).session i).tee)
    (grown : ∀ commit ∈ order, commit ∈ order')
    (apart : ∀ commit ∈ order', commit ∈ order ∨ commit.ticket = c.next)
    (timely : ∀ commit ∈ order',
      Timely env seed start (history ++ [(.enter i request, .entered c.next)]) commit) :
    Explained env seed start (history ++ [(.enter i request, .entered c.next)])
      (c.enter env seed i request) order' := by
  have shown : events (history ++ [(.enter i request, .entered c.next)]) =
      events history ++ [.invoke c.next request] := events_append _ _
  constructor
  case linear => rwa [shown]
  case timely => exact timely
  case issued =>
    intro ticket invocation invoked
    rw [shown, List.mem_append] at invoked
    rcases invoked with before | last
    · exact Nat.lt_succ_of_lt (explained.issued ticket invocation before)
    · cases List.mem_singleton.mp last
      exact Nat.lt_succ_self _
  case progress =>
    intro j running found
    rw [shown]
    by_cases same : j = i
    · subst same
      exact stage running found
    · have other : (c.enter env seed i request).session j = c.session j := by
        simp [Cluster.enter, Cluster.setSession, same]
      rw [other] at found ⊢
      refine (explained.progress j running found).later (fun _ => List.mem_append_left _) grown
        (fun commit member => (apart commit member).imp_right fun newest => ?_) id
      rw [newest]
      exact Nat.ne_of_gt (explained.issued _ _ (explained.progress j running found).invoked)
  case apart =>
    rw [enter_ticket]
    exact apart_update explained.apart fun j has => absurd (explained.ticket_issued has)
      (Nat.lt_irrefl _)

/-- A command enters with its effect ahead; a refused set is committed at once. -/
theorem Explained.enter (explained : Explained env seed start history c order)
    (succeeds : env.Succeeds) (onCoil : request.OnCoil)
    (run : Run (orderly n env seed) start
      (history ++ [(.enter i request, .entered c.next)]) (c.enter env seed i request)) :
    ∃ order', Explained env seed start (history ++ [(.enter i request, .entered c.next)])
      (c.enter env seed i request) order' := by
  have shown : events (history ++ [(.enter i request, .entered c.next)]) =
      events history ++ [.invoke c.next request] := events_append _ _
  have fresh (commit : Commit Invocation Answer) (member : commit ∈ order) :
      commit.ticket ≠ c.next :=
    Nat.ne_of_lt (explained.issued _ _ (explained.linear.invoked commit member))
  have linear := explained.linear.invoke fresh request
  have invoked : .invoke c.next request ∈ events history ++ [.invoke c.next request] :=
    List.mem_append_right _ List.mem_cons_self
  have reached : (c.enter env seed i request).session i = ⟨_, some ⟨c.next, request, _⟩⟩ :=
    Function.update_self ..
  rcases enter_command seed c.store ((c.session i).tee.withStore c.store) succeeds onCoil with
    pending | ⟨settled, store⟩
  · refine ⟨order, explained.entered linear (fun running found => ?_) (fun _ => id) (fun _ => .inl)
      (explained.timely_snoc _)⟩
    rw [reached] at found ⊢
    cases found
    exact ⟨invoked, .inl ⟨fresh, pending⟩⟩
  · have committed := linear.commit invoked fresh
    rw [store] at committed
    have underway : Underway c.next (events (history ++ [(.enter i request, .entered c.next)])) := by
      rw [shown]
      refine ⟨⟨request, invoked⟩, fun answer answered => ?_⟩
      rcases List.mem_append.mp answered with before | last
      · obtain ⟨found, inside, same, _⟩ := explained.linear.answered _ _ before
        exact fresh found inside same
      · cases List.mem_singleton.mp last
    refine ⟨_, explained.entered committed (fun running found => ?_)
      (fun _ => List.mem_append_left _) apart_commit (explained.timely_commit _
        ⟨_, [], _, (List.append_nil _).symm, run, underway, rfl⟩)⟩
    rw [reached] at found ⊢
    cases found
    exact ⟨invoked, .inr ⟨_, List.mem_append_right _ List.mem_cons_self, rfl, settled⟩⟩

/-- Every run over undisturbed calls is explained by some order. -/
theorem run_explained (succeeds : env.Succeeds)
    (idle : ∀ i, (start.session i).running = none) {t : Cluster n}
    (run : Run (orderly n env seed) start history t) :
    ∃ order, Explained env seed start history t order := by
  refine run.invariant (fun history c => ∃ order, Explained env seed start history c order) ?_ ?_
  · refine ⟨[], linearizes_nil, ?_, ?_, ?_, ?_⟩
    · exact fun _ _ invoked => absurd invoked List.not_mem_nil
    · exact fun i running found => absurd ((idle i).symm.trans found) nofun
    · intro i j ticket found
      rw [Cluster.ticket, idle i] at found
      cases found
    · exact fun _ member => absurd member List.not_mem_nil
  · rintro history c turn run ⟨order, explained⟩ allowed
    cases turn with
    | enter i request => exact explained.enter succeeds allowed.1.2 (run.snoc _ allowed)
    | call i =>
      obtain ⟨ticket, request, made, next, calls⟩ := allowed.1
      exact explained.call succeeds run calls (allowed.2 i rfl)
    | leave i =>
      obtain ⟨ticket, request, result, done⟩ := allowed.1
      have left : (orderly n env seed).step c (.leave i) =
          (.left ticket (result, (c.session i).tee.memory),
            c.setSession i ⟨(c.session i).tee, none⟩) := by
        simp only [orderly, Machine.within, cluster, Cluster.step, done]
      rw [left]
      exact ⟨order, explained.leave done⟩

end Runs

section Order
variable {n : Nat} {env : Environment} {seed : Seed} {start t : Cluster n}
  {history : History (Turn n) Shown}

theorem serve_set_coil (crypto : Crypto) (seed : Seed) (store : Store) {request : Invocation}
    (command : request.nCommandID = CommandId.setDataByCoilAddress)
    (valid : crypto.valid (request.bytes request.pParams.p1)
      (request.bytes request.pParams.p2) = true) :
    Store.coil (serve crypto seed store request).2 = (request.pParams.p0.b.toUInt8 ≠ 0 : Bool) := by
  have nonempty := List.length_pos_iff.mpr seed.nonempty
  have length := copied_length seed (store filename)
  simp only [serve_set crypto seed store command, if_pos valid, Store.coil, Function.update_self,
    Option.getD_some]
  exact PackedBits.get_set_same _ _ _ (by rw [length]; omega)

theorem serve_set_reported (crypto : Crypto) (seed : Seed) (store : Store) {request : Invocation}
    (command : request.nCommandID = CommandId.setDataByCoilAddress)
    (reported : (serve crypto seed store request).1.1.2.p3.a = 1) :
    crypto.valid (request.bytes request.pParams.p1) (request.bytes request.pParams.p2) = true := by
  rw [serve_set crypto seed store command] at reported
  split at reported
  · assumption
  · cases reported

/-- In every run over undisturbed calls the commands have a sequential order that is
consistent with their real-time order and explains the store and every result. In it
a set that reported 1 has taken effect, and every command has answered as it would
have alone at some moment between its invocation and its answer. -/
theorem commands_linearizable (succeeds : env.Succeeds)
    (idle : ∀ i, (start.session i).running = none)
    (run : Run (orderly n env seed) start history t) :
    ∃ order, Linearizes (serve env.crypto seed) start.store (events history) order t.store ∧
      (∀ commit ∈ order, commit.request.nCommandID = CommandId.setDataByCoilAddress →
        commit.answer.1.2.p3.a = 1 → ∀ store,
          Store.coil (serve env.crypto seed store commit.request).2 =
            (commit.request.pParams.p0.b.toUInt8 ≠ 0 : Bool)) ∧
      ∀ commit ∈ order, ∃ before after u, history = before ++ after ∧
        Run (orderly n env seed) start before u ∧ Underway commit.ticket (events before) ∧
          commit.answer = (serve env.crypto seed u.store commit.request).1 := by
  obtain ⟨order, explained⟩ := run_explained succeeds idle run
  refine ⟨order, explained.linear, fun commit member command reported store => ?_, explained.timely⟩
  obtain ⟨_, _, u, _, _, _, answer⟩ := explained.timely commit member
  rw [answer] at reported
  exact serve_set_coil env.crypto seed store command
    (serve_set_reported env.crypto seed u.store command reported)

/-- A set is under way when a read enters, and both are answered: the set reports 1, and
the read the coil that it found before. -/
theorem commands_linearizable_shipped :
    let M := orderly 2 .reference .shipped
    let start := Cluster.idle 2 (.holding [0x00])
    let turns := [.enter 0 .setOne, .call 0, .call 0, .call 0, .enter 1 (.getCoil 7 0x13), .call 1,
      .call 1, .call 1, .call 0, .call 0, .leave 0, .leave 1]
    let history := M.recorded start turns
    let t := M.reached start turns
    -- the verdict of the set and the value of the read
    let answers := (events history).filterMap fun
      | .respond 0 written => some written.1.2.p3.a
      | .respond _ read => some read.1.2.p2.a
      | .invoke .. => none
    (∃ order, Linearizes (serve Crypto.reference .shipped) (Tee.holding [0x00]).store
        (events history) order t.store) ∧
      t.store filename = some [0x80] ∧ answers = [1, 0] := by
  intro M start turns history t answers
  have run := Run.recorded (M := M) start turns (by decide +kernel)
  obtain ⟨order, linear, _⟩ := commands_linearizable reference_succeeds (fun _ => rfl) run
  exact ⟨⟨order, linear⟩, by decide +kernel, by decide +kernel⟩

end Order

end InvCtrl
