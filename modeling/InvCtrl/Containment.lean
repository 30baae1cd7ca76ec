import InvCtrl.WaitFreedom

/-! What any number of sessions can do to the stored coils. Whatever the schedule, the
failures and the access conflicts, no command touches another object, gives the coil
object another size than the seed's or switches a coil on that it was not asked to. -/
namespace InvCtrl
open Interaction Execution

/-- A stored coil; what lies beyond the object is 0. -/
def Store.bit (store : Store) (i : Nat) : Bool := PackedBits.get ((store filename).getD []) i

/-- The command asks for the coil: it is on in the seed, or a value other than 0 with a
valid signature is to be set. -/
def Invocation.SwitchesOn (crypto : Crypto) (seed : Seed) (request : Invocation) (i : Nat) : Prop :=
  (request.nCommandID = CommandId.seedCoil ∧ PackedBits.get seed.coilData i = true) ∨
    (request.nCommandID = CommandId.setDataByCoilAddress ∧
      request.pParams.p0.a.toInt32 = coilAddressInverterStatus ∧ i = 0 ∧
      request.pParams.p0.b.toUInt8 ≠ 0 ∧
      crypto.valid (request.bytes request.pParams.p1) (request.bytes request.pParams.p2) = true)

/-- A store that differs from a first one in the coil object alone, which has the size of
the seed then, and in which only these coils are on. -/
structure Contained (seed : Seed) (base : Store) (on : Nat → Prop) (store : Store) : Prop where
  others : ∀ objectID, objectID ≠ filename → store objectID = base objectID
  size : store filename = base filename ∨
    ∃ bytes, store filename = some bytes ∧ bytes.length = seed.coilData.length
  bits : ∀ i, Store.bit store i = true → on i

/-- The answers to a call of a session: its own instance's, or an access conflict. -/
inductive Shared (env : Environment) : (made : TeeCall) → Tee → TeeCall.Reply made × Tee → Prop where
  | own (made : TeeCall) (s : Tee) : Shared env made s (env.handler made s)
  | createRefused (objectID : List UInt8) (flags : DataFlags) (initialData : List UInt8) (s : Tee) :
      Shared env (.createPersistentObject objectID flags initialData) s
        ((teeErrorAccessConflict, .indeterminate), s.storageCall)
  | openRefused (objectID : List UInt8) (flags : DataFlags) (s : Tee) :
      Shared env (.openPersistentObject objectID flags) s
        ((teeErrorAccessConflict, .indeterminate), s.storageCall)

section Calls
variable {env : Environment} {made : TeeCall} {s : Tee} {a : TeeCall.Reply made × Tee}

theorem answer_shared {n : Nat} (c : Cluster n) (i : Fin n) (s : Tee) :
    Shared env made s (c.answer env i made s) := by
  cases made with
  | createPersistentObject objectID flags data =>
    simp only [Cluster.answer]
    split
    · exact .createRefused objectID flags data s
    · exact .own (.createPersistentObject objectID flags data) s
  | openPersistentObject objectID flags =>
    simp only [Cluster.answer]
    split
    · exact .openRefused objectID flags s
    · exact .own (.openPersistentObject objectID flags) s
  | _ => exact .own _ s

theorem Shared.store (shared : Shared env made s a)
    (keeps : ∀ objectID flags data, made ≠ .createPersistentObject objectID flags data) :
    a.2.store = s.store := by
  cases shared with
  | own => exact handler_store env s keeps
  | createRefused objectID flags data => exact absurd rfl (keeps objectID flags data)
  | openRefused => rfl

theorem unscheduled_store (env : Environment) (made : TeeCall) (s : Tee)
    (going : ¬ made.Scheduled) : (env.handler made s).2.store = s.store := by
  refine handler_store env s fun objectID flags data same => ?_
  subst same
  exact going rfl

end Calls

section Programs
variable (env : Environment) (seed : Seed) (base : Store) (on : Nat → Prop)

/-- Between two calls of a session the others may replace the store by a contained one;
each call leaves a contained one. -/
abbrev Contains {α : Type} (ends : α → Tee → Prop) (p : TeeProgram α) (s : Tee) : Prop :=
  p.Safe TeeCall.Scheduled env.handler (Shared env)
    (fun s t => ∃ store, Contained seed base on store ∧ t = s.withStore store)
    (fun _ t => Contained seed base on t.store) ends s

variable {env seed base on} {s : Tee}

theorem contains_call {α : Type} {made : TeeCall} {next : TeeCall.Reply made → TeeProgram α}
    {ends : α → Tee → Prop} (scheduled : made.Scheduled)
    (keeps : ∀ objectID flags data, made ≠ .createPersistentObject objectID flags data)
    (rest : ∀ store, Contained seed base on store → ∀ a, Shared env made (s.withStore store) a →
      Contains env seed base on ends (next a.1) a.2) :
    Contains env seed base on ends (.call made next) s := by
  refine (Program.safe_stopping scheduled next).mpr ?_
  rintro t ⟨store, contained, rfl⟩ a shared
  refine ⟨?_, rest store contained a shared⟩
  rw [shared.store keeps]
  exact contained

theorem contains_going {α β : Type} {p : TeeProgram α} {next : α → TeeProgram β}
    {ends : β → Tee → Prop} (goes : p.Uses fun call => ¬ call.Scheduled)
    (rest : Contains env seed base on ends (next (p.run env.handler s).1) (p.run env.handler s).2) :
    Contains env seed base on ends (p >>= next) s :=
  (Program.safe_going_bind goes).mpr rest

theorem contains_done {α : Type} (value : α) {ends : α → Tee → Prop} (done : ends value s) :
    Contains env seed base on ends (.done value) s := Program.safe_done value done

theorem taClosePersistentObject_contained {ends : TeeResult → Tee → Prop} (object : Handle)
    (done : ∀ t, ends teeSuccess t) :
    Contains env seed base on ends (taClosePersistentObject object) s :=
  contains_call rfl nofun fun _ _ a _ => contains_done _ (done a.2)

/-- An overwrite with data of the seed's size and none but these coils on. -/
theorem taOverwriteCoilWithData_contained {newCoilData : List UInt8} {newCoilDataLen : Nat}
    (size : (newCoilData.take newCoilDataLen).length = seed.coilData.length)
    (bits : ∀ i, PackedBits.get (newCoilData.take newCoilDataLen) i = true → on i) :
    Contains env seed base on (fun _ _ => True)
      (taOverwriteCoilWithData newCoilData newCoilDataLen) s := by
  have scheduled : (TeeCall.createPersistentObject filename ⟨false, true, true⟩
    (newCoilData.take newCoilDataLen)).Scheduled := rfl
  refine (Program.safe_stopping scheduled _).mpr ?_
  rintro t ⟨store, contained, rfl⟩ a shared
  refine ⟨?_, taClosePersistentObject_contained _ fun _ => trivial⟩
  have written : Contained seed base on
      (Function.update store filename (some (newCoilData.take newCoilDataLen))) := by
    refine ⟨fun objectID other => ?_, .inr ⟨_, Function.update_self .., size⟩, fun i => ?_⟩
    · rw [Function.update_of_ne other]
      exact contained.others objectID other
    · rw [Store.bit, Function.update_self]
      exact bits i
  cases shared with
  | createRefused => exact contained
  | own =>
    simp only [Environment.handler, Environment.createPersistentObject]
    split
    · exact written
    · exact contained

/-- What the open of a command leaves: no handle, or one at the start of the object. -/
def Opened (r : TeeResult × Handle) (t : Tee) : Prop :=
  r.2 = .indeterminate ∨ ∃ id flags, r.2 = .live id ∧ t.objects id = some (.persistent filename flags 0)

theorem taOpenPersistentObject_contained (flags : DataFlags) :
    Contains env seed base on Opened
      (taOpenPersistentObject filename flags .indeterminate) s := by
  refine contains_call rfl nofun fun store contained a shared => ?_
  refine contains_done (a.1.1, if a.1.1 = teeSuccess then a.1.2 else .indeterminate) ?_
  cases shared with
  | openRefused => exact .inl rfl
  | own =>
    simp only [Environment.handler, Environment.openPersistentObject]
    by_cases success : (env.storage (s.withStore store).storageCalls).result = teeSuccess
    · simp only [if_pos success]
      split
      · exact .inr ⟨s.next, flags, rfl, Function.update_self ..⟩
      · exact .inl rfl
    · simp only [if_neg success]
      exact .inl rfl

theorem get_take {bytes : List UInt8} {count i : Nat}
    (set : PackedBits.get (bytes.take count) i = true) : PackedBits.get bytes i = true := by
  have same := PackedBits.get_take_append_zeros bytes count 0 i
  rw [List.replicate_zero, List.append_nil, set] at same
  exact (Bool.and_eq_true_iff.mp same.symm).2

theorem get_delivered {outcome : Outcome} {bytes : List UInt8} {i : Nat}
    (set : PackedBits.get (outcome.delivered bytes) i = true) : PackedBits.get bytes i = true := by
  cases outcome with
  | ok => exact set
  | short count => exact get_take set
  | error => exact absurd set (by simp [Outcome.delivered, PackedBits.get])

/-- The data of a read has at most this size and none but these coils on. -/
def Fetched (on : Nat → Prop) (buffer : Buffer) (size : Nat) (filled : Buffer) : Prop :=
  ∃ data, filled = buffer.fill data ∧ data.length ≤ size ∧
    ∀ i, PackedBits.get data i = true → on i

theorem fetched_nothing (buffer : Buffer) (size : Nat) : Fetched on buffer size buffer := by
  refine ⟨[], (Buffer.fill_nil buffer).symm, Nat.zero_le _, fun i set => ?_⟩
  exact absurd set (by simp [PackedBits.get])

theorem taReadPersistentObject_contained {r : TeeResult × Handle} (opened : Opened r s)
    (buffer : Buffer) (size : Nat) (count : UInt32) :
    Contains env seed base on (fun r _ => Fetched on buffer size r.2.1)
      (taReadPersistentObject r.2 buffer size count) s := by
  refine contains_call rfl nofun fun store contained a shared => ?_
  refine contains_done (a.1.1, if a.1.1 = teeSuccess then
    (buffer.fill a.1.2, UInt32.ofNat a.1.2.length) else (buffer, count)) ?_
  change Fetched on buffer size (if a.1.1 = teeSuccess then
    (buffer.fill a.1.2, UInt32.ofNat a.1.2.length) else (buffer, count)).1
  rcases opened with dead | ⟨id, flags, live, held⟩
  · rw [dead] at shared
    cases shared with
    | own => exact fetched_nothing buffer size
  · rw [live] at shared
    cases shared with
    | own =>
      have stands : (s.withStore store).object (.live id) = some (.persistent filename flags 0) := held
      simp only [Environment.handler, Environment.readObjectData, stands, List.drop_zero]
      by_cases success : (env.storage (s.withStore store).storageCalls).result = teeSuccess
      · simp only [if_pos success]
        refine ⟨(env.storage (s.withStore store).storageCalls).delivered
          (((store filename).getD []).take size), ?_, ?_, fun i set => ?_⟩
        · cases buffer <;> rfl
        · exact (Outcome.delivered_length_le _ _).trans (List.length_take_le _ _)
        · exact contained.bits i (get_take (get_delivered set))
      · simp only [if_neg success]
        exact fetched_nothing buffer size

theorem taGetAllCoilDataUnpacked_contained (buffer : Buffer) (size : Nat) (count : UInt32) :
    Contains env seed base on (fun r _ => Fetched on buffer size r.2.1)
      (taGetAllCoilDataUnpacked buffer size count) s := by
  refine (taOpenPersistentObject_contained _).bind fun opened t held => ?_
  refine (taReadPersistentObject_contained held buffer size count).bind fun read t fetched => ?_
  exact contains_call rfl nofun fun _ _ _ _ => contains_done _ fetched

theorem fetched_copy {filled : Buffer}
    (fetched : Fetched on (.stack (List.replicate seed.coilData.length 0x00)) seed.coilData.length
      filled) :
    filled.bytes.length = seed.coilData.length ∧
      ∀ i, PackedBits.get filled.bytes i = true → on i := by
  obtain ⟨data, rfl, size, bits⟩ := fetched
  simp only [Buffer.fill, Buffer.bytes, List.drop_replicate]
  constructor
  · rw [List.length_append, List.length_replicate]
    omega
  · intro i set
    have padded := PackedBits.get_take_append_zeros data data.length
      (seed.coilData.length - data.length) i
    rw [List.take_length, set] at padded
    exact bits i (Bool.and_eq_true_iff.mp padded.symm).2

theorem get_updated {coilAddress : Int32} {coilValue : UInt8} {bytes : List UInt8}
    (bits : ∀ i, PackedBits.get bytes i = true → on i)
    (asked : coilAddress = coilAddressInverterStatus → coilValue ≠ 0 → on 0) (i : Nat)
    (set : PackedBits.get
      (taUpdateCoilData (taGetBitNumberForCoil coilAddress) coilValue bytes) i = true) : on i := by
  rw [taUpdateCoilData_address] at set
  split at set
  · next mapped =>
    by_cases first : i = 0
    · subst first
      by_cases inside : 0 < 8 * bytes.length
      · rw [PackedBits.get_set_same _ _ _ inside] at set
        exact asked mapped (of_decide_eq_true set)
      · rw [PackedBits.get_outside _ _ (by rw [PackedBits.set_length]; omega)] at set
        exact absurd set Bool.false_ne_true
    · rw [PackedBits.get_set_other _ _ _ _ first] at set
      exact bits i set
  · exact bits i set

theorem taUpdateCoilData_length (bitNumber : Int32) (coilValue : UInt8) (bytes : List UInt8) :
    (taUpdateCoilData bitNumber coilValue bytes).length = bytes.length :=
  List.length_modify ..

/-- Every command keeps to the coils it asks for. -/
theorem program_contained (request : Invocation)
    (asked : ∀ i, request.SwitchesOn env.crypto seed i → on i) :
    Contains env seed base on (fun _ _ => True) (request.program seed) (request.supply s) := by
  have dispatch := program_dispatch seed request
  generalize request.program seed = program at dispatch ⊢
  cases dispatch with
  | seedCoil seeding =>
    refine Program.Safe.bind (taOverwriteCoilWithData_contained ?_ fun i set => ?_)
      fun res t _ => contains_done _ trivial
    · rw [List.take_length]
    · rw [List.take_length] at set
      exact asked i (.inl ⟨seeding, set⟩)
  | getAllCoilData gettingAll =>
    exact (taGetAllCoilDataUnpacked_contained _ _ _).bind fun read t _ => contains_done _ trivial
  | getDataByCoilAddress getting =>
    refine (taGetAllCoilDataUnpacked_contained _ _ _).bind fun read t _ => ?_
    obtain ⟨res, filled, count⟩ := read
    simp only
    refine contains_going (taSign_goes _ _ _ _) ?_
    generalize (taSign _ _ _ _).run env.handler t = signed
    exact contains_done _ trivial
  | setDataByCoilAddress setting =>
    refine contains_going (taVerify_goes _ _ _ _ _) ?_
    obtain ⟨_, verified⟩ := taVerify_verified env (request.supply s)
      (.shared request.pParams.p1.buffer) request.pParams.p1.size.toNat request.pParams.p2.buffer
      request.pParams.p2.size 0
    generalize (taVerify _ _ _ _ _).run env.handler (request.supply s) = checked at verified
    by_cases refused : checked.1.2 = -1
    · simp only [if_pos refused]
      exact contains_done _ trivial
    · have valid := verified.sound (verified.decided.resolve_right refused)
      simp only [if_neg refused]
      refine (taGetAllCoilDataUnpacked_contained _ _ _).bind fun read t fetched => ?_
      obtain ⟨size, bits⟩ := fetched_copy fetched
      refine Program.Safe.bind (taOverwriteCoilWithData_contained ?_ fun i set => ?_)
        fun res t _ => contains_done _ trivial
      · rw [List.length_take, taUpdateCoilData_length, size, Nat.min_self]
      · apply get_updated bits ?_ i (get_take set)
        intro mapped other
        exact asked 0 (.inr ⟨setting, mapped, rfl, other, valid⟩)
  | verifyCoilData verifying =>
    rw [taVerifyCoilDAta]
    refine contains_going (taVerify_goes _ _ _ _ _) ?_
    generalize (taVerify _ _ _ _ _).run env.handler _ = verified
    exact contains_done _ trivial
  | signCoilData signing =>
    rw [taSignCoilData]
    refine contains_going (taSign_goes _ _ _ _) ?_
    generalize (taSign _ _ _ _).run env.handler _ = signed
    exact contains_done _ trivial
  | unknown other => exact contains_done _ trivial

end Programs

section Runs
variable {n : Nat} {env : Environment} {seed : Seed} {start c : Cluster n}
  {history : History (Turn n) Shown} {base : Store} {on : Nat → Prop}

/-- A contained store, and nothing ahead of any session that would change this. -/
structure Cluster.Keeps (env : Environment) (seed : Seed) (base : Store) (on : Nat → Prop)
    (c : Cluster n) : Prop where
  store : Contained seed base on c.store
  ahead : ∀ i running, (c.session i).running = some running →
    running.program.Stopped TeeCall.Scheduled ∧
      Contains env seed base on (fun _ _ => True) running.program (c.session i).tee

theorem Cluster.Keeps.moved {d : Cluster n} {i : Fin n} (keeps : c.Keeps env seed base on)
    (others : ∀ j, j ≠ i → d.session j = c.session j) (store : Contained seed base on d.store)
    (own : ∀ running, (d.session i).running = some running →
      running.program.Stopped TeeCall.Scheduled ∧
        Contains env seed base on (fun _ _ => True) running.program (d.session i).tee) :
    d.Keeps env seed base on := by
  refine ⟨store, fun j running found => ?_⟩
  by_cases same : j = i
  · subst same
    exact own running found
  · rw [others j same] at found ⊢
    exact keeps.ahead j running found

theorem Cluster.Keeps.enter (keeps : c.Keeps env seed base on) (i : Fin n) (request : Invocation)
    (asked : ∀ k, request.SwitchesOn env.crypto seed k → on k) :
    (c.enter env seed i request).Keeps env seed base on := by
  refine keeps.moved (fun j other => Function.update_of_ne other ..) keeps.store ?_
  intro running found
  simp only [Cluster.enter, Cluster.setSession, Function.update_self, Option.some.injEq] at found ⊢
  subst found
  exact ⟨Program.stopped_settle _ _ _ _, Program.safe_settle.mpr (program_contained request asked)⟩

theorem Cluster.Keeps.call (keeps : c.Keeps env seed base on) (i : Fin n) {ticket : Nat}
    {request : Invocation} {made : TeeCall}
    {next : TeeCall.Reply made → TeeProgram (TeeResult × TeeParams)}
    (calls : (c.session i).running = some ⟨ticket, request, .call made next⟩) :
    (c.call env i).Keeps env seed base on := by
  obtain ⟨stopped, ahead⟩ := keeps.ahead i _ calls
  have scheduled : made.Scheduled := stopped
  let s := (c.session i).tee.withStore c.store
  let a := c.answer env i made s
  obtain ⟨contained, safe⟩ := (Program.safe_stopping scheduled next).mp ahead s
    ⟨c.store, keeps.store, rfl⟩ a (answer_shared c i s)
  have after : (c.resume env i next (c.session i).tee).2.store = a.2.store :=
    Program.settle_keeps env.handler Tee.store (unscheduled_store env) (next a.1) a.2
  simp only [Cluster.call, calls]
  refine keeps.moved (fun j other => Function.update_of_ne other ..) (after.symm ▸ contained) ?_
  intro running found
  simp only [Cluster.setSession, Function.update_self, Option.some.injEq] at found ⊢
  subst found
  exact ⟨Program.stopped_settle _ _ _ _, Program.safe_settle.mpr safe⟩

theorem Cluster.Keeps.leave (keeps : c.Keeps env seed base on) (i : Fin n) (s : Tee) :
    (c.setSession i ⟨s, none⟩).Keeps env seed base on := by
  refine keeps.moved (fun j other => Function.update_of_ne other ..) keeps.store ?_
  intro running found
  simp [Cluster.setSession] at found

variable (on) in
/-- A run keeps to the coils that its commands ask for. -/
theorem run_keeps (idle : ∀ i, (start.session i).running = none)
    (run : Run (sessions n env seed) start history c)
    (already : ∀ k, Store.bit start.store k = true → on k)
    (asked : ∀ i request shown, (.enter i request, shown) ∈ history →
      ∀ k, request.SwitchesOn env.crypto seed k → on k) :
    c.Keeps env seed start.store on := by
  revert asked
  apply run.invariant fun history c =>
    (∀ i request shown, (.enter i request, shown) ∈ history →
      ∀ k, request.SwitchesOn env.crypto seed k → on k) → c.Keeps env seed start.store on
  · intro _
    refine ⟨⟨fun _ _ => rfl, .inl rfl, already⟩, fun i running found => ?_⟩
    exact absurd ((idle i).symm.trans found) (by simp)
  · intro history c turn _ ih allowed asked
    have keeps := ih fun i request shown earlier =>
      asked i request shown (List.mem_append_left _ earlier)
    cases turn with
    | enter i request =>
      exact keeps.enter i request
        (asked i request _ (List.mem_append_right _ (List.mem_singleton.mpr rfl)))
    | call i =>
      obtain ⟨ticket, request, made, next, calls⟩ := allowed
      exact keeps.call i calls
    | leave i =>
      obtain ⟨ticket, request, result, done⟩ := allowed
      simp only [sessions, Cluster.step, done]
      exact keeps.leave i _

/-- Whatever the sessions do and whatever fails, only the coil object changes, its size
is the seed's once it has changed, and a coil that is on at the end was on at the
start or was asked for: by a seed, or by a set of the first coil with a valid signature. -/
theorem coils_contained (idle : ∀ i, (start.session i).running = none)
    (run : Run (sessions n env seed) start history c) :
    (∀ objectID, objectID ≠ filename → c.store objectID = start.store objectID) ∧
      (c.store filename = start.store filename ∨
        ∃ bytes, c.store filename = some bytes ∧ bytes.length = seed.coilData.length) ∧
      ∀ k, Store.bit c.store k = true → Store.bit start.store k = true ∨
        ∃ i request shown, (.enter i request, shown) ∈ history ∧
          request.SwitchesOn env.crypto seed k := by
  obtain ⟨others, size, bits⟩ := (run_keeps
    (fun k => Store.bit start.store k = true ∨ ∃ i request shown,
      (.enter i request, shown) ∈ history ∧ request.SwitchesOn env.crypto seed k)
    idle run (fun k set => .inl set)
    fun i request shown entered k asks => .inr ⟨i, request, shown, entered, asks⟩).store
  exact ⟨others, size, bits⟩

/-- A read of all coils, and a set that copies them before a seed and writes them after it:
of the coils, the first is on by the set, and the second because it was on at the start. -/
theorem coils_contained_shipped :
    let M := sessions 2 .reference .shipped
    let start := Cluster.idle 2 (.holding [0x40])
    let turns := [.enter 1 (.plain CommandId.getAllCoilData), .call 1, .call 1, .call 1, .leave 1,
      .enter 0 .setOne, .call 0, .call 0, .call 0, .enter 1 (.plain CommandId.seedCoil), .call 1,
      .call 1, .call 0]
    let c := M.reached start turns
    c.store filename = some [0xC0] ∧ ∀ k, 1 < k → Store.bit c.store k = false := by
  intro M start turns c
  have run := Run.recorded (M := M) start turns (by decide +kernel)
  obtain ⟨_, _, bits⟩ := coils_contained (fun _ => rfl) run
  have seeded (k : Nat) : PackedBits.get Seed.shipped.coilData k = false := by
    have byte : Seed.shipped.coilData = [] ++ List.replicate 1 0 := rfl
    rw [byte, ← List.take_nil, PackedBits.get_take_append_zeros [] 0]
    rfl
  refine ⟨by decide +kernel, fun k beyond => Bool.eq_false_iff.mpr fun set => ?_⟩
  rcases bits k set with already | ⟨i, request, shown, entered, ⟨_, on⟩ | ⟨_, _, first, _⟩⟩
  · have stored : Store.bit start.store k = PackedBits.get (PackedBits.set [0x00] 1 true) k := by
      have held : start.store filename = some [0x40] := holding_store [0x40]
      rw [Store.bit, held]
      rfl
    rw [stored, PackedBits.get_set_other _ _ _ _ (by omega)] at already
    exact absurd ((seeded k).symm.trans already) Bool.false_ne_true
  · exact absurd ((seeded k).symm.trans on) Bool.false_ne_true
  · omega

end Runs

end InvCtrl
