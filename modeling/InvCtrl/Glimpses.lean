import InvCtrl.Containment
import InvCtrl.AccessConflict

/-! Interleaved commands seen one by one, under any schedule and any conflicts. Each looks
at the object once: it answers as it would alone on what it found then, and what it
overwrites the object with it has made from that, however old it is by then. -/
namespace InvCtrl
open Interaction Execution

/-- A store with nothing but these bytes in the coil object. -/
def Store.only (bytes : List UInt8) : Store :=
  Function.update (fun _ => none) filename (some bytes)

@[simp] theorem only_filename (bytes : List UInt8) : Store.only bytes filename = some bytes :=
  Function.update_self ..

/-- A seed, or a set whose signature is valid. -/
def Invocation.Writes (crypto : Crypto) (request : Invocation) : Prop :=
  request.nCommandID = CommandId.seedCoil ∨
    (request.nCommandID = CommandId.setDataByCoilAddress ∧
      crypto.valid (request.bytes request.pParams.p1) (request.bytes request.pParams.p2) = true)

/-- What a command has found of the object after one more call. The first look counts:
an open that fails finds nothing, and a read what it delivers. -/
def sight (seen : Option (List UInt8)) : (made : TeeCall) → TeeCall.Reply made → Option (List UInt8)
  | .openPersistentObject objectID _, reply =>
    if objectID = filename ∧ reply.1 ≠ teeSuccess then seen.or (some []) else seen
  | .readObjectData .., reply => seen.or (some (if reply.1 = teeSuccess then reply.2 else []))
  | _, _ => seen

/-- Bytes that a session can find in the object: a part of it from the front on, and what
there is unless storage fails or another session has the object open. -/
structure Found {n : Nat} (env : Environment) (seed : Seed) (i : Fin n) (c : Cluster n)
    (found : List UInt8) : Prop where
  begins : found <+: (c.store filename).getD []
  whole : env.StorageSucceeds → c.conflict i filename = false →
    found = ((c.store filename).getD []).take seed.coilData.length

section Serving
variable (seed : Seed) {found : List UInt8}

theorem copy_only (fits : found.length ≤ seed.coilData.length) :
    seed.copied (some found) =
      ((Buffer.stack (List.replicate seed.coilData.length 0x00)).fill found).bytes := by
  simp only [Seed.copied, Option.getD_some,
    List.take_of_length_le fits, Buffer.fill, Buffer.bytes]

end Serving

section Programs
variable {n : Nat} (env : Environment) (seed : Seed) (i : Fin n) (request : Invocation)

/-- A session while its command runs, with all sessions as they were at its last call and
what the command has found. -/
abbrev Watch (n : Nat) := Tee × Cluster n × Option (List UInt8)

/-- The command's call: it leaves the object, or overwrites it with what the command makes
of what it has found; and what is found now can be found now. -/
structure Glances (v w : Watch n) : Prop where
  puts : w.1.store = v.1.store ∨ (request.Writes env.crypto ∧ ∀ default,
    w.1.store = Function.update v.1.store filename
      ((serve env.crypto seed (.only (v.2.2.getD default)) request).2 filename))
  finds : ∀ found, w.2.2 = some found → v.2.2 = some found ∨ Found env seed i v.2.1 found

/-- Between two calls the others do what they like; the call is answered as they make it go. -/
abbrev Watched {α : Type} (ends : α → Watch n → Prop) (p : TeeProgram α) (v : Watch n) : Prop :=
  p.Safe TeeCall.Scheduled (Program.carrying env.handler)
    (fun made v a => let r := v.2.1.answer env i made v.1
      a = (r.1, r.2, v.2.1, sight v.2.2 made r.1))
    (fun v w => ∃ c : Cluster n, w = (v.1.withStore c.store, c, v.2.2))
    (Glances env seed i request) ends v

variable {env seed i request} {s : Tee} {c : Cluster n} {seen : Option (List UInt8)}

theorem watched_call {α : Type} {made : TeeCall} {next : TeeCall.Reply made → TeeProgram α}
    {ends : α → Watch n → Prop} (scheduled : made.Scheduled)
    (rest : ∀ d : Cluster n, let a := d.answer env i made (s.withStore d.store)
      Glances env seed i request (s.withStore d.store, d, seen) (a.2, d, sight seen made a.1) ∧
        Watched env seed i request ends (next a.1) (a.2, d, sight seen made a.1)) :
    Watched env seed i request ends (.call made next) (s, c, seen) := by
  refine (Program.safe_stopping scheduled next).mpr ?_
  rintro _ ⟨d, rfl⟩ _ rfl
  exact rest d

theorem glances_blind {made : TeeCall} (blind : made.Blind)
    (same : ∀ reply, sight seen made reply = seen) (d : Cluster n) :
    let a := d.answer env i made (s.withStore d.store)
    Glances env seed i request (s.withStore d.store, d, seen) (a.2, d, sight seen made a.1) where
  puts := by
    rw [answer_blind blind]
    exact .inl (blind_store env _ blind)
  finds _ now := .inl ((same _).symm.trans now)

theorem watched_going {α β : Type} {p : TeeProgram α} {next : α → TeeProgram β}
    {ends : β → Watch n → Prop} (goes : p.Uses fun call => ¬ call.Scheduled)
    (rest : Watched env seed i request ends (next (p.run env.handler s).1)
      ((p.run env.handler s).2, c, seen)) :
    Watched env seed i request ends (p >>= next) (s, c, seen) := by
  refine (Program.safe_going_bind goes).mpr ?_
  rwa [Program.run_carrying]

theorem watched_done {α : Type} (value : α) {ends : α → Watch n → Prop}
    (done : ends value (s, c, seen)) : Watched env seed i request ends (.done value) (s, c, seen) :=
  Program.safe_done value done

theorem taClosePersistentObject_watched {ends : TeeResult → Watch n → Prop} (object : Handle)
    (done : ∀ t d, t.memory = s.memory → ends teeSuccess (t, d, seen)) :
    Watched env seed i request ends (taClosePersistentObject object) (s, c, seen) := by
  have closes : (TeeCall.closeObject object).Closes := trivial
  refine watched_call rfl fun d => ⟨glances_blind closes.blind (fun _ => rfl) d, watched_done _ ?_⟩
  exact done _ d (closes_memory closes _)

/-- What an open leaves: nothing to find, or a handle at the start of the object. -/
def OpensTo (memory : UInt32 → ByteMemory) (r : TeeResult × Handle) (v : Watch n) : Prop :=
  v.1.memory = memory ∧ ((r.2 = .indeterminate ∧ v.2.2 = some []) ∨
    (v.2.2 = none ∧ ∃ id flags, r.2 = .live id ∧
      v.1.objects id = some (.persistent filename flags 0)))

theorem opens_nothing (flags : DataFlags) {res : TeeResult} (failed : res ≠ teeSuccess)
    {d : Cluster n} (nothing : env.StorageSucceeds → d.conflict i filename = false →
      (d.store filename).getD [] = []) :
    let t := (s.withStore d.store).storageCall
    let seen := sight none (.openPersistentObject filename flags) (res, .indeterminate)
    Glances env seed i request (s.withStore d.store, d, none) (t, d, seen) ∧
      OpensTo s.memory (res, if res = teeSuccess then .indeterminate else .indeterminate)
        (t, d, seen) := by
  have seen : sight none (.openPersistentObject filename flags) (res, .indeterminate) = some [] :=
    if_pos ⟨rfl, failed⟩
  rw [seen, ite_self]
  refine ⟨⟨.inl rfl, fun found now => .inr ?_⟩, rfl, .inl ⟨rfl, rfl⟩⟩
  obtain rfl : [] = found := Option.some.inj now
  refine ⟨List.nil_prefix, fun succeeds free => ?_⟩
  rw [nothing succeeds free, List.take_nil]

theorem taOpenPersistentObject_watched (flags : DataFlags) :
    Watched env seed i request (OpensTo s.memory)
      (taOpenPersistentObject filename flags .indeterminate) (s, c, none) := by
  refine watched_call rfl fun d => ?_
  by_cases conflict : d.conflict i filename = true
  · simp only [Cluster.answer, if_pos conflict]
    have refused : teeErrorAccessConflict ≠ teeSuccess := by decide
    obtain ⟨glances, opens⟩ := opens_nothing flags refused fun _ free =>
      absurd (conflict.symm.trans free) (by decide)
    exact ⟨glances, watched_done _ opens⟩
  simp only [Cluster.answer, if_neg conflict]
  by_cases opens : env.OpensCoil (s.withStore d.store)
  · rw [openPersistentObject_opened opens]
    refine ⟨⟨.inl rfl, fun found now => ?_⟩, watched_done _ ⟨rfl, .inr ⟨rfl, ?_⟩⟩⟩
    · cases now
    · exact ⟨s.next, flags, rfl, Function.update_self ..⟩
  · obtain ⟨res, failed, result⟩ := openPersistentObject_unopened opens flags
    rw [result]
    obtain ⟨glances, opens⟩ := opens_nothing flags failed fun succeeds _ => by
      have absent : d.store filename = none :=
        Option.not_isSome_iff_eq_none.mp fun present => opens ⟨succeeds.result _, present⟩
      rw [absent, Option.getD_none]
    exact ⟨glances, watched_done _ opens⟩

/-- A local array of the seed's size after a read: what was found, and its own bytes. -/
def Fills (memory : UInt32 → ByteMemory) (bytes : List UInt8) (size : Nat) (filled : Buffer)
    (v : Watch n) : Prop :=
  v.1.memory = memory ∧ ∃ found, v.2.2 = some found ∧ found.length ≤ size ∧
    filled = (Buffer.stack bytes).fill found

theorem taReadPersistentObject_watched {r : TeeResult × Handle} {memory : UInt32 → ByteMemory}
    (opened : OpensTo memory r (s, c, seen)) (bytes : List UInt8) (count : UInt32) :
    Watched env seed i request (fun r v => Fills memory bytes seed.coilData.length r.2.1 v)
      (taReadPersistentObject r.2 (.stack bytes) seed.coilData.length count) (s, c, seen) := by
  obtain ⟨rfl, ⟨dead, found⟩ | ⟨unseen, id, flags, live, held⟩⟩ := opened
  · obtain rfl : seen = some [] := found
    rw [dead]
    refine watched_call rfl fun d => ⟨glances_blind ?_ (fun _ => rfl) d, watched_done _ ?_⟩
    · exact fun _ same => by cases same
    · exact ⟨rfl, [], rfl, Nat.zero_le _, (Buffer.fill_nil _).symm⟩
  obtain rfl : seen = none := unseen
  rw [live]
  refine watched_call rfl fun d => ?_
  have stands : (s.withStore d.store).object (.live id) = some (.persistent filename flags 0) := held
  let outcome := env.storage s.storageCalls
  let stored := ((d.store filename).getD []).take seed.coilData.length
  simp only [Cluster.answer, Environment.handler, Environment.readObjectData, stands,
    List.drop_zero, withStore_storageCalls]
  by_cases success : outcome.result = teeSuccess
  · simp only [outcome] at success
    simp only [if_pos success]
    have begins := outcome.delivered_prefix stored
    have size : (outcome.delivered stored).length ≤ seed.coilData.length :=
      begins.length_le.trans (List.length_take_le _ _)
    refine ⟨⟨.inl rfl, fun found now => .inr ?_⟩, watched_done _ ⟨rfl, _, rfl, size, rfl⟩⟩
    obtain rfl : outcome.delivered stored = found := Option.some.inj now
    refine ⟨begins.trans (List.take_prefix _ _), fun succeeds _ => ?_⟩
    simp only [outcome, succeeds _]
    rfl
  · simp only [outcome] at success
    simp only [if_neg success]
    refine ⟨⟨.inl rfl, fun found now => .inr ?_⟩, watched_done _ ⟨rfl, [], ?_, Nat.zero_le _, ?_⟩⟩
    · obtain rfl : [] = found := by simpa [sight, success] using now
      exact ⟨List.nil_prefix, fun succeeds _ => absurd (succeeds.result _) success⟩
    · simp [sight, success]
    · simp [success]

theorem taGetAllCoilDataUnpacked_watched (bytes : List UInt8) (count : UInt32) :
    Watched env seed i request (fun r v => Fills s.memory bytes seed.coilData.length r.2.1 v)
      (taGetAllCoilDataUnpacked (.stack bytes) seed.coilData.length count) (s, c, none) := by
  refine (taOpenPersistentObject_watched _).bind fun opened ⟨t, d, seen⟩ opens => ?_
  refine (taReadPersistentObject_watched opens bytes count).bind fun read ⟨u, e, found⟩ fills => ?_
  have closes : (TeeCall.closeObject opened.2).Closes := trivial
  refine watched_call rfl fun e => ⟨glances_blind closes.blind (fun _ => rfl) e, watched_done _ ?_⟩
  exact ⟨(closes_memory closes _).trans fills.1, fills.2⟩

theorem taOverwriteCoilWithData_watched {memory : UInt32 → ByteMemory} (kept : s.memory = memory)
    {newCoilData : List UInt8} {newCoilDataLen : Nat} (writes : request.Writes env.crypto)
    (due : ∀ default, (serve env.crypto seed (.only (seen.getD default)) request).2 filename =
      some (newCoilData.take newCoilDataLen)) :
    Watched env seed i request
      (fun res v => res = teeSuccess ∧ v.1.memory = memory ∧ v.2.2 = seen)
      (taOverwriteCoilWithData newCoilData newCoilDataLen) (s, c, seen) := by
  refine watched_call rfl fun d => ?_
  have closing (object : Handle) (t : Tee) (same : t.memory = s.memory) :
      Watched env seed i request
        (fun res v => res = teeSuccess ∧ v.1.memory = memory ∧ v.2.2 = seen)
        (taClosePersistentObject object) (t, d, seen) :=
    taClosePersistentObject_watched object fun _ _ held => ⟨rfl, held.trans (same.trans kept), rfl⟩
  simp only [Cluster.answer, Environment.createPersistentObject]
  split
  · exact ⟨⟨.inl rfl, fun _ now => .inl now⟩, closing _ _ rfl⟩
  split
  · refine ⟨⟨.inr ⟨writes, fun default => ?_⟩, fun _ now => .inl now⟩, closing _ _ rfl⟩
    rw [due]
    rfl
  · exact ⟨⟨.inl rfl, fun _ now => .inl now⟩, closing _ _ rfl⟩

variable (env seed request) in
/-- The command's answer is the one it would have given alone on what it has found. -/
def AnswersFound (result : TeeResult × TeeParams) (v : Watch n) : Prop :=
  env.CryptoSucceeds → ∀ default,
    (result, v.1.memory) = (serve env.crypto seed (.only (v.2.2.getD default)) request).1

theorem seedCoil_watched (command : request.nCommandID = CommandId.seedCoil) :
    Watched env seed i request (AnswersFound env seed request) (request.program seed)
      (request.supply s, c, none) := by
  rw [program_seedCoil seed command]
  have supplied : (request.supply s).memory = request.memory := rfl
  refine Program.Safe.bind (taOverwriteCoilWithData_watched supplied (.inl command)
    fun default => ?_) fun res ⟨t, d, seen⟩ ⟨success, memory, _⟩ => watched_done _ ?_
  · rw [serve_seed env.crypto seed _ command, List.take_length]
    simp only [Function.update_self]
  · intro _ default
    rw [serve_seed env.crypto seed _ command, success]
    exact Prod.ext rfl memory

theorem fills_copy {memory : UInt32 → ByteMemory} {filled : Buffer} {v : Watch n}
    (fills : Fills memory (List.replicate seed.coilData.length 0x00) seed.coilData.length filled v) :
    v.1.memory = memory ∧ ∃ found, v.2.2 = some found ∧ filled.bytes = seed.copied (some found) := by
  obtain ⟨kept, found, seen, fits, rfl⟩ := fills
  exact ⟨kept, found, seen, (copy_only seed fits).symm⟩

theorem getDataByCoilAddress_watched
    (command : request.nCommandID = CommandId.getDataByCoilAddress)
    (mapped : request.pParams.p0.b.toInt32 = coilAddressInverterStatus) :
    Watched env seed i request (AnswersFound env seed request) (request.program seed)
      (request.supply s, c, none) := by
  rw [program_getDataByCoilAddress seed command]
  refine (taGetAllCoilDataUnpacked_watched _ _).bind fun ⟨_, filled, _⟩ ⟨t, d, seen⟩ fills => ?_
  obtain ⟨kept, found, rfl, copied⟩ := fills_copy fills
  refine watched_going (taSign_goes _ _ _ _) (watched_done _ ?_)
  intro succeeds default
  have value : taGetCoilValue (taGetBitNumberForCoil request.pParams.p0.b.toInt32) filled.bytes =
      if Store.coil (.only found) then 1 else 0 := by
    simp only [taGetCoilValue_address, mapped, true_and, copied, copied_coil, Store.coil,
      only_filename]
  simp only [value, message_unsigned]
  obtain ⟨done, result⟩ := taSign_result env t
    (.stack (message (if Store.coil (.only found) then 1 else 0) request.pParams.p0.a.toUInt16)) 3
    request.pParams.p1.buffer request.pParams.p1.size
  generalize (taSign _ _ _ _).run env.handler t = signed at done result
  obtain ⟨length, _, memory⟩ := result.complete succeeds
  rw [serve_get env.crypto seed _ command, done, length, memory, show t.memory = _ from kept]
  rfl

theorem setDataByCoilAddress_watched
    (command : request.nCommandID = CommandId.setDataByCoilAddress)
    (mapped : request.pParams.p0.a.toInt32 = coilAddressInverterStatus) :
    Watched env seed i request (AnswersFound env seed request) (request.program seed)
      (request.supply s, c, none) := by
  rw [program_setDataByCoilAddress seed command]
  refine watched_going (taVerify_goes _ _ _ _ _) ?_
  obtain ⟨done, verified⟩ := taVerify_verified env (request.supply s)
    (.shared request.pParams.p1.buffer) request.pParams.p1.size.toNat request.pParams.p2.buffer
    request.pParams.p2.size 0
  generalize (taVerify _ _ _ _ _).run env.handler (request.supply s) = checked at done verified
  obtain ⟨⟨res, verdict⟩, t⟩ := checked
  simp only at done verified
  obtain ⟨_, memory, _, _⟩ := visible_ext verified.visible
  subst done
  by_cases refused : verdict = -1
  · subst refused
    simp only [↓reduceIte]
    refine watched_done _ fun succeeds default => ?_
    have invalid : ¬ env.crypto.valid (request.bytes request.pParams.p1)
        (request.bytes request.pParams.p2) = true := fun valid =>
      refusal_apart (verified.complete succeeds valid)
    rw [serve_set env.crypto seed _ command, if_neg invalid]
    exact Prod.ext rfl memory
  obtain rfl := verified.decided.resolve_right refused
  have valid : env.crypto.valid (request.bytes request.pParams.p1)
      (request.bytes request.pParams.p2) = true := verified.sound rfl
  simp only [if_neg refused]
  refine (taGetAllCoilDataUnpacked_watched _ _).bind fun ⟨_, filled, _⟩ ⟨u, d, seen⟩ fills => ?_
  obtain ⟨kept, found, rfl, copied⟩ := fills_copy fills
  refine Program.Safe.bind (taOverwriteCoilWithData_watched (kept.trans memory) (.inr ⟨command, valid⟩)
    fun default => ?_) fun res ⟨v, e, seen⟩ ⟨success, same, _⟩ => watched_done _ ?_
  · have size : (taUpdateCoilData (taGetBitNumberForCoil request.pParams.p0.a.toInt32)
        request.pParams.p0.b.toUInt8 (seed.copied (some found))).length = seed.coilData.length := by
      rw [taUpdateCoilData_length, copied_length]
    rw [serve_set env.crypto seed _ command, if_pos valid, copied,
      List.take_of_length_le (Nat.le_of_eq size), taUpdateCoilData_address, if_pos mapped]
    simp only [Function.update_self, Option.getD_some, only_filename]
  · intro _ default
    rw [serve_set env.crypto seed _ command, if_pos valid, success]
    exact Prod.ext rfl same

variable (env seed i s c) in
/-- Whatever the others do, a command looks once and answers what it would have alone. -/
theorem program_watched (onCoil : request.OnCoil) :
    Watched env seed i request (AnswersFound env seed request) (request.program seed)
      (request.supply s, c, none) := by
  rcases onCoil with command | ⟨command, mapped⟩ | ⟨command, mapped⟩
  · exact seedCoil_watched command
  · exact getDataByCoilAddress_watched command mapped
  · exact setDataByCoilAddress_watched command mapped

end Programs

section Runs
variable {n : Nat} (env : Environment) (seed : Seed) (start : Cluster n)

/-- At some moment of the history the session had the command on its way, and could find
these bytes. -/
def Glimpsed (history : History (Turn n) Shown) (i : Fin n) (ticket : Nat) (request : Invocation)
    (found : List UInt8) : Prop :=
  ∃ before after u program, history = before ++ after ∧ Run (cluster n env seed) start before u ∧
    (u.session i).running = some ⟨ticket, request, program⟩ ∧ Found env seed i u found

/-- Every command on its way is watched, and what it has found it has found on its way. -/
def Followed (history : History (Turn n) Shown) (c : Cluster n) : Prop :=
  ∀ i running, (c.session i).running = some running →
    running.program.Stopped TeeCall.Scheduled ∧ ∃ (d : Cluster n) (seen : Option (List UInt8)),
      (∀ found, seen = some found →
        Glimpsed env seed start history i running.ticket running.request found) ∧
      Watched env seed i running.request (AnswersFound env seed running.request) running.program
        ((c.session i).tee, d, seen)

variable {env seed start} {history : History (Turn n) Shown} {c : Cluster n} {i : Fin n}
  {ticket : Nat} {request : Invocation} {found : List UInt8}

theorem Glimpsed.append (glimpsed : Glimpsed env seed start history i ticket request found)
    (later : History (Turn n) Shown) :
    Glimpsed env seed start (history ++ later) i ticket request found := by
  obtain ⟨before, after, u, program, split, moment⟩ := glimpsed
  exact ⟨before, after ++ later, u, program, by rw [split, List.append_assoc], moment⟩

theorem glimpsed_now (run : Run (cluster n env seed) start history c)
    {program : TeeProgram (TeeResult × TeeParams)}
    (running : (c.session i).running = some ⟨ticket, request, program⟩)
    (finds : Found env seed i c found) : Glimpsed env seed start history i ticket request found :=
  ⟨history, [], c, program, (List.append_nil _).symm, run, running, finds⟩

variable (env seed i c) in
theorem found_stored :
    Found env seed i c (((c.store filename).getD []).take seed.coilData.length) :=
  ⟨List.take_prefix _ _, fun _ _ => rfl⟩

theorem Followed.moved {d : Cluster n} (followed : Followed env seed start history c)
    (event : Turn n × Shown) (others : ∀ j, j ≠ i → d.session j = c.session j)
    (own : ∀ running, (d.session i).running = some running →
      running.program.Stopped TeeCall.Scheduled ∧ ∃ (e : Cluster n) (seen : Option (List UInt8)),
        (∀ found, seen = some found →
          Glimpsed env seed start (history ++ [event]) i running.ticket running.request found) ∧
        Watched env seed i running.request (AnswersFound env seed running.request) running.program
          ((d.session i).tee, e, seen)) :
    Followed env seed start (history ++ [event]) d := by
  intro j running stands
  by_cases same : j = i
  · subst same
    exact own running stands
  · rw [others j same] at stands ⊢
    obtain ⟨stopped, e, seen, glimpsed, watched⟩ := followed j running stands
    exact ⟨stopped, e, seen, fun found now => (glimpsed found now).append [event], watched⟩

theorem Followed.enter (followed : Followed env seed start history c)
    (onCoil : request.OnCoil) (event : Turn n × Shown) :
    Followed env seed start (history ++ [event]) (c.enter env seed i request) := by
  refine followed.moved event (fun j other => Function.update_of_ne other ..) fun running stands => ?_
  simp only [Cluster.enter, Cluster.setSession, Function.update_self, Option.some.injEq] at stands ⊢
  subst stands
  have watched := Program.safe_settle.mpr
    (program_watched env seed i ((c.session i).tee.withStore c.store) c onCoil)
  rw [Program.settle_carrying] at watched
  refine ⟨Program.stopped_settle _ _ _ _, c, none, ?_, watched⟩
  intro found now
  cases now

theorem Followed.call (followed : Followed env seed start history c)
    (run : Run (cluster n env seed) start history c)
    {made : TeeCall} {next : TeeCall.Reply made → TeeProgram (TeeResult × TeeParams)}
    (calls : (c.session i).running = some ⟨ticket, request, .call made next⟩)
    (event : Turn n × Shown) :
    Followed env seed start (history ++ [event]) (c.call env i) ∧
      ((c.call env i).store = c.store ∨ (request.Writes env.crypto ∧
        ∃ found, Glimpsed env seed start history i ticket request found ∧
          (c.call env i).store = Function.update c.store filename
            ((serve env.crypto seed (.only found) request).2 filename))) := by
  obtain ⟨stopped, d, seen, glimpsed, watched⟩ := followed i _ calls
  have scheduled : made.Scheduled := stopped
  let s := (c.session i).tee.withStore c.store
  let a := c.answer env i made s
  obtain ⟨glances, ahead⟩ := (Program.safe_stopping scheduled next).mp watched
    (s, c, seen) ⟨c, rfl⟩ _ rfl
  have after : (c.resume env i next (c.session i).tee).2.store = a.2.store :=
    Program.settle_keeps env.handler Tee.store (unscheduled_store env) (next a.1) a.2
  constructor
  · refine followed.moved event (i := i) ?_ fun running stands => ?_
    · intro j other
      simp only [Cluster.call, calls]
      exact Function.update_of_ne other ..
    · simp only [Cluster.call, calls, Cluster.setSession, Function.update_self,
        Option.some.injEq] at stands ⊢
      subst stands
      refine ⟨Program.stopped_settle _ _ _ _, c, sight seen made a.1, fun found now => ?_, ?_⟩
      · rcases glances.finds found now with earlier | finds
        · exact (glimpsed found earlier).append [event]
        · exact (glimpsed_now run calls finds).append [event]
      · have settled := Program.safe_settle.mpr ahead
        rwa [Program.settle_carrying] at settled
  · have reached : (c.call env i).store = a.2.store := by
      rw [← after, Cluster.call, calls]
    rw [reached]
    rcases glances.puts with kept | ⟨writes, puts⟩
    · exact .inl kept
    · refine .inr ⟨writes, seen.getD (((c.store filename).getD []).take seed.coilData.length), ?_,
        puts _⟩
      cases seen with
      | none => exact glimpsed_now run calls (found_stored env seed c i)
      | some found => exact glimpsed found rfl

theorem run_followed (idle : ∀ i, (start.session i).running = none)
    (run : Run (cluster n env seed) start history c) : Followed env seed start history c := by
  apply run.invariant fun history c => Followed env seed start history c
  · exact fun i running stands => absurd ((idle i).symm.trans stands) (by simp)
  · intro history c turn run followed allowed
    cases turn with
    | enter i request => exact followed.enter allowed.2 _
    | call i =>
      obtain ⟨ticket, request, made, next, calls⟩ := allowed
      exact (followed.call run calls _).1
    | leave i =>
      obtain ⟨ticket, request, result, done⟩ := allowed
      simp only [cluster, Cluster.step, done]
      refine followed.moved _ (fun j other => Function.update_of_ne other ..) fun running stands => ?_
      simp [Cluster.setSession] at stands

/-- In every run, whatever conflicts and storage failures there are, an answer is what the
command would have answered alone on what it could find at a moment on its way. -/
theorem answers_found (crypto : env.CryptoSucceeds) (idle : ∀ i, (start.session i).running = none)
    (run : Run (cluster n env seed) start history c) {answer : Answer}
    (answered : .respond ticket answer ∈ events history) :
    ∃ i request found, Glimpsed env seed start history i ticket request found ∧
      answer = (serve env.crypto seed (.only found) request).1 := by
  obtain ⟨⟨turn, output⟩, member, shown⟩ := List.mem_filterMap.mp answered
  cases turn with
  | enter | call => cases output <;> simp at shown
  | leave i =>
    cases output with
    | entered | called => simp at shown
    | left ticket answer =>
      cases shown
      obtain ⟨before, after, rfl⟩ := List.append_of_mem member
      obtain ⟨u, first, ⟨ticket, request, result, done⟩, output, _⟩ := run.split_at
      simp only [cluster, Cluster.step, done] at output
      cases output
      obtain ⟨_, d, seen, glimpsed, watched⟩ := run_followed idle first i _ done
      let stored := ((u.store filename).getD []).take seed.coilData.length
      refine ⟨i, request, seen.getD stored, ?_, watched.ended crypto stored⟩
      apply Glimpsed.append
      cases seen with
      | none => exact glimpsed_now first done (found_stored env seed u i)
      | some found => exact glimpsed found rfl

/-- Whatever fails, the stored objects only change in that a seed or a set with a valid
signature overwrites the coil object with what it would have made alone of the bytes that
it could find at some earlier moment on its way. -/
theorem overwrites_found (idle : ∀ i, (start.session i).running = none)
    (run : Run (cluster n env seed) start history c) (turn : Turn n) (allowed : c.admissible turn)
    (changes : (c.step env seed turn).2.store ≠ c.store) :
    ∃ i ticket request found, turn = .call i ∧ c.ticket i = some ticket ∧
      request.Writes env.crypto ∧ Glimpsed env seed start history i ticket request found ∧
      (c.step env seed turn).2.store = Function.update c.store filename
        ((serve env.crypto seed (.only found) request).2 filename) := by
  cases turn with
  | enter i request => exact absurd rfl changes
  | leave i =>
    obtain ⟨ticket, request, result, done⟩ := allowed
    simp only [Cluster.step, done] at changes
    exact absurd rfl changes
  | call i =>
    obtain ⟨ticket, request, made, next, calls⟩ := allowed
    have followed := run_followed idle run
    rcases (followed.call run calls (.call i, .called)).2 with kept | ⟨writes, found, glimpsed, puts⟩
    · exact absurd kept changes
    · refine ⟨i, ticket, request, found, rfl, ?_, writes, glimpsed, puts⟩
      rw [Cluster.ticket, calls]
      rfl

end Runs

section Shipped

/-- A read has the object open, and a valid set of the other session finds nothing; it is
answered as it would have been alone. -/
theorem answers_found_shipped : ∃ history t,
    Run (cluster 2 .reference .shipped) (.idle 2 (.holding [0x00])) history t ∧
      ∃ i request found, Glimpsed .reference .shipped (.idle 2 (.holding [0x00])) history i 1 request
        found ∧ Invocation.setOne.accepted =
          (serve Crypto.reference .shipped (.only found) request).1 := by
  let c : Cluster 2 := .idle 2 (.holding [0x00])
  have free : c.Free := ⟨fun _ => rfl, fun _ => rfl⟩
  obtain ⟨d, reading, holds, _, next, others⟩ := @reading_holds 2 .reference .shipped c 0 _
    reference_succeeds (getCoil_command 7 0x13) (.inr (.inl ⟨getCoil_command 7 0x13, rfl⟩)) rfl
    (free.idle 0) (free.conflict 0)
  have conflict : d.conflict 1 filename = true :=
    List.any_eq_true.mpr ⟨0, List.mem_finRange 0, by simp [holds]⟩
  have idle : (d.session 1).running = none := by
    rw [others 1 (by decide)]
    rfl
  obtain ⟨calls, t, setting, _, shown⟩ := @blocked_set 2 .reference .shipped d 1 _
    reference_succeeds setOne_command (.inr (.inr ⟨setOne_command, setOne_mapped⟩))
    (setOne_valid _ rfl) idle conflict
  have run := reading.append setting
  have answered : .respond d.next Invocation.setOne.accepted ∈
      events ([(.enter 0 (.getCoil 7 0x13), .entered c.next), (.call 0, .called)] ++ calls) := by
    rw [events_append, shown]
    simp
  rw [next] at answered
  exact ⟨_, t, run, answers_found reference_succeeds.crypto free.idle run answered⟩

/-- A set copies the object, a seed of the other session overwrites it, and then the set
writes what it makes of its stale copy. -/
theorem overwrites_found_shipped :
    let M := cluster 2 .reference .shipped
    let start := Cluster.idle 2 (.holding [0x7F])
    let turns := [.enter 0 .setOne, .call 0, .call 0, .call 0,
      .enter 1 (.plain CommandId.seedCoil), .call 1, .call 1]
    let c := M.reached start turns
    c.store filename = some [0x00] ∧
      (c.step .reference .shipped (.call 0)).2.store filename = some [0xFF] ∧
      ∃ i ticket request found, Turn.call 0 = .call i ∧ c.ticket i = some ticket ∧
        request.Writes Crypto.reference ∧
        Glimpsed .reference .shipped start (M.recorded start turns) i ticket request found ∧
        (c.step .reference .shipped (.call 0)).2.store = Function.update c.store filename
          ((serve Crypto.reference .shipped (.only found) request).2 filename) := by
  intro M start turns c
  have run := Run.recorded (M := M) start turns (by decide +kernel)
  have before : c.store filename = some [0x00] := by decide +kernel
  have after : (c.step .reference .shipped (.call 0)).2.store filename = some [0xFF] := by
    decide +kernel
  have changes : (c.step .reference .shipped (.call 0)).2.store ≠ c.store := by
    intro same
    have kept := congrFun same filename
    rw [after, before] at kept
    exact absurd kept (by decide)
  exact ⟨before, after, overwrites_found (fun _ => rfl) run (.call 0) (by decide +kernel) changes⟩

end Shipped

end InvCtrl
