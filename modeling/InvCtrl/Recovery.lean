import InvCtrl.Agreement
import InvCtrl.Observable
import InvCtrl.Verdicts

/-! The network over a machine that may refuse every client call and lose every reply.
A write then takes effect once or not at all, in its place among the others, whatever
the client is told; repeating one until it is confirmed and seeding again both repair. -/
namespace InvCtrl
open Interaction Execution

section Stored
variable (seed : Seed)

/-- What a set writes over the object. -/
def Seed.updated (stored : Option (List UInt8)) (coilAddress : Int32) (coilValue : UInt8) :
    List UInt8 :=
  if coilAddress = coilAddressInverterStatus then
    PackedBits.set (seed.copied stored) 0 (coilValue ≠ 0)
  else seed.copied stored

/-- What a write that takes effect makes of the object. -/
def Action.put (stored : Option (List UInt8)) : Action → Option (List UInt8)
  | .seed => some seed.coilData
  | .setCoilData _ coilAddress coilValue _ => some (seed.updated stored coilAddress coilValue)
  | _ => stored

theorem updated_length (stored : Option (List UInt8)) (coilAddress : Int32) (coilValue : UInt8) :
    (seed.updated stored coilAddress coilValue).length = seed.coilData.length := by
  unfold Seed.updated
  split
  · rw [PackedBits.set_length, copied_length]
  · exact copied_length seed stored

theorem updated_updated (stored : Option (List UInt8)) (coilAddress : Int32) (coilValue : UInt8) :
    seed.updated (some (seed.updated stored coilAddress coilValue)) coilAddress coilValue =
      seed.updated stored coilAddress coilValue := by
  have whole := copied_whole seed (updated_length seed stored coilAddress coilValue)
  by_cases mapped : coilAddress = coilAddressInverterStatus
  · rw [Seed.updated, if_pos mapped, whole, Seed.updated, if_pos mapped, PackedBits.set_set]
  · rw [Seed.updated, if_neg mapped, whole]

variable {env : Environment} (storage : env.StorageSucceeds) (s : Tee)
include storage

theorem coilUpdate_updated (coilAddress : Int32) (coilValue : UInt8) :
    env.coilUpdate seed s coilAddress.toUInt32 coilValue.toUInt32 =
      seed.updated (s.store filename) coilAddress coilValue := by
  have address : coilAddress.toUInt32.toInt32 = coilAddress := rfl
  unfold Seed.updated
  split
  · next mapped =>
    rw [coilUpdate_mapped env seed s _ _ (address.trans mapped), coilCopy_copied storage,
      UInt8.toUInt8_toUInt32]
  · next unmapped =>
    rw [Environment.coilUpdate, taUpdateCoilData_address, address, if_neg unmapped,
      coilCopy_copied storage]
    exact List.take_of_length_le (Nat.le_of_eq (copied_length seed _))

end Stored

/-- The client is told that its write took effect. -/
def Confirmed : Action × Observation → Bool
  | (.setCoilData .., .verdict code) => code = 1
  | _ => false

/-- The client is not told that its write did not take effect. -/
def Possible : Action × Observation → Bool
  | (.seed, _) => true
  | (.setCoilData .., .verdict code) => code ≠ -1
  | _ => false

section Calls
variable {platform : Platform} {w : World}

theorem openedSession_unopened_tee (unopened : ¬ platform.Opens w.calls) (failed : UInt32 → α)
    (body : HostProgram α) :
    ((openedSession failed body).run platform.handler w).2.tee = w.tee := by
  simp only [openedSession, Program.run_bind, Program.run_perform, Platform.handler,
    Platform.connect_eq]
  by_cases first : platform.Completes w.calls
  · have second : (platform.outcome (w.calls + 1)).code ≠ teecSuccess := fun second =>
      unopened ((platform.opens_iff w.calls).mpr ⟨first, second⟩)
    rw [Platform.Completes] at first
    simp [first, second, Platform.handler, Platform.connect_eq]
  · rw [Platform.Completes] at first
    simp [first]

/-- The call gets as far as the application, whether or not its reply comes back. -/
def Platform.Reaches (platform : Platform) (call : Nat) : Prop :=
  ∀ code failed, platform.outcome call ≠ .refused code failed

theorem invokedOnce_reached (reaches : platform.Reaches w.calls) (commandID : UInt32)
    (op : TeecParams) :
    ((invokedOnce commandID op).run platform.handler w).2.tee = (platform.env.invoke platform.seed
      (platform.request commandID op.paramTypes op w) w.tee).2 := by
  simp only [invokedOnce, Program.run_bind, Program.run_perform, Program.run_pure,
    Platform.handler, Platform.invokeCommand]
  cases outcome : platform.outcome w.calls with
  | completed | lost => rfl
  | refused code failed => exact absurd outcome (reaches code failed)

theorem invokedOnce_unreached (unreached : ¬ platform.Reaches w.calls) (commandID : UInt32)
    (op : TeecParams) : ((invokedOnce commandID op).run platform.handler w).2.tee = w.tee := by
  simp only [invokedOnce, Program.run_bind, Program.run_perform, Program.run_pure,
    Platform.handler, Platform.invokeCommand]
  cases outcome : platform.outcome w.calls with
  | refused => rfl
  | completed | lost =>
    refine absurd (fun code failed same => ?_) unreached
    cases outcome.symm.trans same

/-- The two commands that write. -/
def TeecCall.Writes : TeecCall → Prop
  | .invokeCommand commandID .. =>
    commandID = CommandId.seedCoil ∨ commandID = CommandId.setDataByCoilAddress
  | _ => False

theorem handler_reads (request : TeecCall) (w : World) (reads : ¬ request.Writes) :
    (platform.handler request w).2.tee.store = w.tee.store := by
  cases request with
  | invokeCommand commandID paramTypes params =>
    have kept : (platform.env.invoke platform.seed
        (platform.request commandID paramTypes params w) w.tee).2.store = w.tee.store := by
      rcases (invoke_effect platform.env platform.seed
          (platform.request commandID paramTypes params w) w.tee).store with
        ⟨seeding, _⟩ | ⟨accepted, _⟩ | ⟨_, _, store⟩
      · exact absurd (.inl seeding) reads
      · exact absurd (.inr accepted.1) reads
      · exact store
    simp only [Platform.handler, Platform.invokeCommand]
    cases platform.outcome w.calls with
    | completed => exact kept
    | refused => rfl
    | lost => exact kept
  | initializeContext | openSession =>
    simp only [Platform.handler, Platform.connect_eq]
  | closeSession | finalizeContext | uninitialized => rfl

end Calls

/-- Programs of the host library that write nothing. -/
abbrev ReadsOnly (p : HostProgram α) : Prop := p.Uses fun request => ¬ request.Writes

section ReadsOnly

theorem openedSession_reads {body : HostProgram α} (reads : ReadsOnly body) (failed : UInt32 → α) :
    ReadsOnly (openedSession failed body) := by
  apply (Program.uses_perform_bind _ _).mpr
  refine ⟨id, fun res => ?_⟩
  split
  · trivial
  · apply (Program.uses_perform_bind _ _).mpr
    refine ⟨id, fun res => ?_⟩
    split
    · trivial
    · exact reads

theorem invokedOnce_reads {commandID : UInt32} (op : TeecParams)
    (quiet : ¬ (commandID = CommandId.seedCoil ∨ commandID = CommandId.setDataByCoilAddress)) :
    ReadsOnly (invokedOnce commandID op) :=
  ⟨quiet, fun _ => ⟨id, fun _ => ⟨id, fun _ => trivial⟩⟩⟩

theorem hostPrintAllCoilData_reads (seed : Seed) : ReadsOnly (hostPrintAllCoilData seed) := by
  apply openedSession_reads
  refine ⟨id, fun buffer => ?_⟩
  exact (invokedOnce_reads _ (by decide)).bind fun _ => trivial

theorem invCtrlGetDataByCoilAddress_reads (transactionId coilAddress : Int32) (req : ByteMemory)
    (reqLength : Nat) (serverTamper : Int32) :
    ReadsOnly (invCtrlGetDataByCoilAddress transactionId coilAddress req reqLength serverTamper) := by
  apply (Program.uses_perform_bind _ _).mpr
  refine ⟨id, fun coilValue => Program.Uses.bind ?_ fun _ => trivial⟩
  apply openedSession_reads
  refine ⟨id, fun buffer => ?_⟩
  exact (invokedOnce_reads _ (by decide)).bind fun _ => trivial

theorem invCtrlVerifyCoilData_reads (transactionId : Int32) (coilValue : UInt8)
    (signature : ByteMemory) (signatureLen : Int32) :
    ReadsOnly (invCtrlVerifyCoilData transactionId coilValue signature signatureLen) := by
  refine Program.Uses.bind ?_ fun _ => trivial
  apply openedSession_reads
  exact (invokedOnce_reads _ (by decide)).bind fun _ => trivial

theorem invCtrlSignCoilValue_reads (idHigh idLow valueHigh valueLow : UInt8) (req : ByteMemory)
    (reqLength : Nat) (clientTamper : Int32) :
    ReadsOnly (invCtrlSignCoilValue idHigh idLow valueHigh valueLow req reqLength clientTamper) := by
  refine Program.Uses.bind ?_ fun _ => trivial
  apply openedSession_reads
  refine ⟨id, fun buffer => ?_⟩
  exact (invokedOnce_reads _ (by decide)).bind fun _ => trivial

theorem reads_store {platform : Platform} {p : HostProgram α} (reads : ReadsOnly p) (w : World) :
    (p.run platform.handler w).2.tee.store = w.tee.store :=
  Program.run_frame platform.handler (·.tee.store) handler_reads reads w

end ReadsOnly

section Writes
variable {platform : Platform} (storage : platform.env.StorageSucceeds) (w : World)
include storage

theorem agentSeed_reached (opens : platform.Opens w.calls)
    (reaches : platform.Reaches (w.calls + 2)) (initial : Seed) :
    ((Agent.seed initial).run platform.handler w).2.tee.store filename =
      some platform.seed.coilData := by
  have seeded : (hostSeedCoil.run platform.handler w).2.tee.store filename =
      some platform.seed.coilData := by
    simp only [hostSeedCoil, openedSession_opened opens, Program.run_bind, Program.run_pure]
    rw [invokedOnce_reached reaches]
    exact invoke_seedCoil storage _ rfl
  simp only [Agent.seed, Program.run_bind, Program.run_pure]
  rw [reads_store (hostPrintAllCoilData_reads initial)]
  exact seeded

omit storage in
theorem agentSeed_unreached (unreached : ¬ (platform.Opens w.calls ∧
      platform.Reaches (w.calls + 2))) (initial : Seed) :
    ((Agent.seed initial).run platform.handler w).2.tee.store = w.tee.store := by
  have kept : (hostSeedCoil.run platform.handler w).2.tee = w.tee := by
    by_cases opens : platform.Opens w.calls
    · simp only [hostSeedCoil, openedSession_opened opens, Program.run_bind, Program.run_pure]
      exact invokedOnce_unreached (fun reaches => unreached ⟨opens, reaches⟩) _ _
    · exact openedSession_unopened_tee opens _ _
  simp only [Agent.seed, Program.run_bind, Program.run_pure]
  rw [reads_store (hostPrintAllCoilData_reads initial), kept]

/-- A set that may or may not have reached the application. -/
theorem invCtrlSetCoilData_unanswered (opens : platform.Opens w.calls)
    (transactionId coilAddress : Int32) (coilValue : UInt8) (signature : ByteMemory) :
    let r := (invCtrlSetCoilData transactionId coilAddress coilValue signature).run
      platform.handler w
    r.2.tee.signed = w.tee.signed ∧
      (r.2.tee.store filename =
          some (platform.seed.updated (w.tee.store filename) coilAddress coilValue) ∨
        r.2.tee.store filename = w.tee.store filename) := by
  intro r
  let v : World := ⟨w.tee, w.calls + 2 + 1⟩
  let op : TeecParams :=
    ⟨.valueInout coilAddress.toUInt32 coilValue.toUInt32,
      .memrefTempOutput (.ofBytes (hostData transactionId coilValue)) 3,
      .memrefTempOutput (ByteMemory.copyLoop signature (platform.residue (w.calls + 2)) 0
        (loopCount 128)) (128 : Int32).toUInt32, .valueInout 0 0⟩
  let request := platform.request CommandId.setDataByCoilAddress op.paramTypes op v
  have ends : r.2.tee =
      ((invokedOnce CommandId.setDataByCoilAddress op).run platform.handler v).2.tee := by
    simp only [r, invCtrlSetCoilData, hostSetCoilData1, openedSession_opened opens,
      Program.run_bind, Program.run_perform, Program.run_pure, Platform.handler]
    rfl
  rw [ends]
  by_cases reaches : platform.Reaches v.calls
  · rw [invokedOnce_reached reaches]
    obtain ⟨_, signed, ⟨_, _, store⟩ | ⟨_, _, store⟩⟩ :=
      (invoke_effect platform.env platform.seed request w.tee).setData rfl
    · refine ⟨signed, .inl ?_⟩
      rw [← coilUpdate_updated platform.seed storage]
      rw [if_pos (storage.result _)] at store
      exact (congrFun store filename).trans (Function.update_self ..)
    · exact ⟨signed, .inr (congrFun store filename)⟩
  · rw [invokedOnce_unreached reaches]
    exact ⟨rfl, .inr rfl⟩

/-- What a set leaves and what the client is told of it; the code of a failed opening
passes for a verdict. -/
theorem invCtrlSetCoilData_put (transactionId coilAddress : Int32) (coilValue : UInt8)
    (signature : ByteMemory) :
    let r := (invCtrlSetCoilData transactionId coilAddress coilValue signature).run
      platform.handler w
    (r.1 ≠ -1 ∧ r.2.tee.store filename =
        some (platform.seed.updated (w.tee.store filename) coilAddress coilValue)) ∨
      ((r.1 = 1 → platform.openingCode w.calls = 1) ∧
        r.2.tee.store filename = w.tee.store filename) := by
  intro r
  by_cases opens : platform.Opens w.calls
  case neg =>
    refine .inr ⟨fun told => ?_, ?_⟩
    · have shown : r.1 = (platform.openingCode w.calls).toInt32 :=
        invCtrlSet_unopened w transactionId coilAddress coilValue signature opens
      exact congrArg Int32.toUInt32 (shown.symm.trans told)
    · exact congrArg (fun s : Tee => s.store filename) (openedSession_unopened_tee opens _ _)
  by_cases completes : platform.Completes (w.calls + 3)
  · obtain ⟨_, ⟨accepted, _, store⟩ | ⟨refused, _, store⟩⟩ := hostSetCoilData1_received opens
      completes transactionId coilAddress coilValue signature 128
    · refine .inl ⟨?_, ?_⟩
      · rw [show r.1 = 1 from accepted]
        decide
      · rw [if_pos (storage.result _)] at store
        rw [← coilUpdate_updated platform.seed storage]
        exact (congrFun store filename).trans (Function.update_self ..)
    · refine .inr ⟨fun told => ?_, congrFun store filename⟩
      exact absurd (told.symm.trans refused) (by decide)
  · have silent : r.1 = 0 :=
      invCtrlSet_failed w transactionId coilAddress coilValue signature opens completes
    obtain ⟨_, written | kept⟩ := invCtrlSetCoilData_unanswered storage w opens transactionId
      coilAddress coilValue signature
    · refine .inl ⟨?_, written⟩
      rw [silent]
      decide
    · refine .inr ⟨fun told => ?_, kept⟩
      exact absurd (silent.symm.trans told) (by decide)

/-- One action puts what it asks for or leaves the object alone. -/
theorem perform_put (action : Action) :
    let r := perform platform w action
    (Possible (action, r.1) = true ∧
        r.2.tee.store filename = action.put platform.seed (w.tee.store filename)) ∨
      ((Confirmed (action, r.1) = true → platform.openingCode w.calls = 1) ∧
        r.2.tee.store filename = w.tee.store filename) := by
  intro r
  cases action with
  | seed =>
    by_cases reached : platform.Opens w.calls ∧ platform.Reaches (w.calls + 2)
    · exact .inl ⟨rfl, agentSeed_reached storage w reached.1 reached.2 platform.seed⟩
    · refine .inr ⟨fun told => absurd told Bool.false_ne_true, ?_⟩
      exact congrFun (agentSeed_unreached w reached platform.seed) filename
  | signCoilValue =>
    refine .inr ⟨fun told => absurd told Bool.false_ne_true, ?_⟩
    exact congrFun (reads_store (invCtrlSignCoilValue_reads _ _ _ _ _ _ _) w) filename
  | issueRead => exact .inr ⟨fun told => absurd told Bool.false_ne_true, rfl⟩
  | getDataByCoilAddress =>
    refine .inr ⟨fun told => absurd told Bool.false_ne_true, ?_⟩
    exact congrFun (reads_store (invCtrlGetDataByCoilAddress_reads _ _ _ _ _) w) filename
  | setCoilData transactionId coilAddress coilValue signature =>
    rcases invCtrlSetCoilData_put storage w transactionId coilAddress coilValue signature with
      ⟨told, written⟩ | ⟨told, kept⟩
    · exact .inl ⟨decide_eq_true told, written⟩
    · exact .inr ⟨fun confirmed => told (of_decide_eq_true confirmed), kept⟩
  | verifyCoilData =>
    refine .inr ⟨fun told => absurd told Bool.false_ne_true, ?_⟩
    exact congrFun (reads_store (invCtrlVerifyCoilData_reads _ _ _ _) w) filename

end Writes

theorem foldl_repeated {α β : Type} {move : β → α → β} {settle : β → β}
    (idempotent : ∀ b, settle (settle b) = settle b) {events : List α} (some : events ≠ [])
    (same : ∀ event ∈ events, ∀ b, move b event = settle b) (b : β) :
    events.foldl move b = settle b := by
  induction events generalizing b with
  | nil => exact absurd rfl some
  | cons first rest ih =>
    rw [List.foldl_cons, same first List.mem_cons_self]
    by_cases more : rest = []
    · rw [more, List.foldl_nil]
    · rw [ih more fun event member => same event (List.mem_cons_of_mem _ member), idempotent]

section Runs
variable {platform : Platform} (storage : platform.env.StorageSucceeds) {start w : World}
  {history : NetworkHistory}
include storage

/-- The same where the client API's own codes are apart from the verdict 1. -/
theorem perform_decided (apart : ∀ call, (platform.outcome call).code ≠ 1) (s : World)
    (action : Action) :
    let r := perform platform s action
    (Possible (action, r.1) = true ∧
        r.2.tee.store filename = action.put platform.seed (s.tee.store filename)) ∨
      (Confirmed (action, r.1) = false ∧ r.2.tee.store filename = s.tee.store filename) := by
  refine (perform_put storage s action).imp id (And.imp_left fun told => ?_)
  apply Bool.eq_false_iff.mpr
  intro confirmed
  have code := told confirmed
  unfold Platform.openingCode at code
  split at code
  · exact apart _ code
  · exact apart _ code

/-- The object after a run in which any call may be refused and any reply lost: the writes
that took effect are some of those that were possible, in their order and once each, and
every confirmed one is among them. -/
theorem writes_at_most_once (apart : ∀ call, (platform.outcome call).code ≠ 1)
    (run : Run (network platform) start history w) :
    ∃ executed : NetworkHistory, (history.filter Confirmed).Sublist executed ∧
      executed.Sublist (history.filter Possible) ∧
      w.tee.store filename = executed.foldl (fun stored event => event.1.put platform.seed stored)
        (start.tee.store filename) :=
  run.taken (fun w => w.tee.store filename) _ Confirmed Possible fun s action _ =>
    perform_decided storage apart s action

/-- One write, repeated by whoever takes part and however many of the attempts and their
replies are lost: once one of them is confirmed it has happened as if there had been
only one. -/
theorem retry_settles (apart : ∀ call, (platform.outcome call).code ≠ 1)
    (run : Run (network platform) start history w) (coilAddress : Int32) (coilValue : UInt8)
    (one : ∀ event ∈ history, Possible event = true → ∃ transactionId signature,
      event.1 = .setCoilData transactionId coilAddress coilValue signature)
    (confirmed : ∃ event ∈ history, Confirmed event = true) :
    w.tee.store filename =
      some (platform.seed.updated (start.tee.store filename) coilAddress coilValue) := by
  obtain ⟨executed, settled, possible, stored⟩ := run.taken (fun w => w.tee.store filename)
    (fun stored event => event.1.put platform.seed stored) Confirmed Possible fun s action _ =>
      perform_decided storage apart s action
  obtain ⟨event, member, told⟩ := confirmed
  have took : event ∈ executed := settled.subset (List.mem_filter.mpr ⟨member, told⟩)
  rw [stored]
  let settle (stored : Option (List UInt8)) : Option (List UInt8) :=
    some (platform.seed.updated stored coilAddress coilValue)
  have idempotent (stored : Option (List UInt8)) : settle (settle stored) = settle stored :=
    congrArg some (updated_updated platform.seed stored coilAddress coilValue)
  apply foldl_repeated idempotent
  · exact List.ne_nil_of_mem took
  · intro event member stored
    obtain ⟨present, can⟩ := List.mem_filter.mp (possible.subset member)
    obtain ⟨_, _, named⟩ := one event present can
    rw [named]
    rfl

end Runs

section Shipped

/-- The shipped machine when the reply to one client call is lost. -/
def Platform.losing (lost : Nat) (code : UInt32) (failed : code ≠ teecSuccess) : Platform :=
  { Platform.reference with
    outcome := fun call => if call = lost then .lost code failed else .completed }

theorem losing_apart (lost : Nat) {code : UInt32} (failed : code ≠ teecSuccess) (apart : code ≠ 1)
    (call : Nat) : ((Platform.losing lost code failed).outcome call).code ≠ 1 := by
  have answered : (Platform.losing lost code failed).outcome call =
      if call = lost then .lost code failed else .completed := rfl
  rw [answered]
  split
  · exact apart
  · decide

/-- A write of the shipped coil under the signature that the reference key has put on it. -/
def Action.signedSet : Action := .setCoilData 7 coilAddressInverterStatus 1
  (.ofBytes (Crypto.reference.signature (message 1 7)))

/-- Where nothing is lost the signed write is confirmed. -/
theorem losing_confirms {lost : Nat} {code : UInt32} {failed : code ≠ teecSuccess} (w : World)
    (opens : (Platform.losing lost code failed).Opens w.calls)
    (completes : (Platform.losing lost code failed).Completes (w.calls + 3))
    (signed : (message 1 7, Crypto.reference.signature (message 1 7)) ∈ w.tee.signed) :
    ∃ u, Run (network (.losing lost code failed)) w [(.signedSet, .verdict 1)] u := by
  let platform := Platform.losing lost code failed
  let signature := ByteMemory.ofBytes (Crypto.reference.signature (message 1 7))
  have whole : signature.slice 0 128 = Crypto.reference.signature (message 1 7) :=
    ByteMemory.slice_ofBytes _
  obtain ⟨unforged, valid⟩ := reference_presents signed whole
  have confirmed : (perform platform w .signedSet).1 = .verdict 1 := by
    obtain ⟨_, ⟨verdict, _⟩ | ⟨_, refused, _⟩⟩ := hostSetCoilData1_answered opens completes
      reference_works.delivers.carries 7 coilAddressInverterStatus 1 signature 128 (by decide)
    · exact congrArg Observation.verdict verdict
    · exact absurd ⟨reference_succeeds.crypto.verifyWorks _, valid⟩ refused
  exact ⟨_, Run.single (M := network platform) w .signedSet unforged confirmed⟩

theorem repeated_set :
    ∃ start w, Run (network (.losing 3 0xFFFF0000 (by decide))) start
        [(.signedSet, .verdict 0), (.signedSet, .verdict 1)] w ∧
      start.tee.store filename = some [0x00] := by
  let platform := Platform.losing 3 0xFFFF0000 (by decide)
  let signature := ByteMemory.ofBytes (Crypto.reference.signature (message 1 7))
  let log := [(message 1 7, Crypto.reference.signature (message 1 7))]
  let start : World := ⟨{ Tee.holding [0x00] with signed := log }, 0⟩
  have whole : signature.slice 0 128 = Crypto.reference.signature (message 1 7) :=
    ByteMemory.slice_ofBytes _
  have presented : Unforged .reference log (signature.slice 0 128) ∧ _ :=
    reference_presents List.mem_cons_self whole
  have opens : platform.Opens start.calls := by decide
  have unanswered : (perform platform start .signedSet).1 = .verdict 0 :=
    congrArg Observation.verdict (invCtrlSet_failed start 7 _ 1 signature opens (by decide))
  have first := Run.single (M := network platform) start .signedSet presented.1 unanswered
  let u := (perform platform start .signedSet).2
  have calls : u.calls = 6 := rfl
  have signed : u.tee.signed = log :=
    (invCtrlSetCoilData_unanswered (fun _ => rfl) start opens 7 _ 1 signature).1
  obtain ⟨w, second⟩ := @losing_confirms 3 0xFFFF0000 (by decide) u
    (by rw [calls]; decide) (by rw [calls]; decide) (signed ▸ List.mem_cons_self)
  exact ⟨start, w, first.append second, holding_store _⟩

theorem writes_at_most_once_shipped :
    ∃ (w : World) (executed : NetworkHistory), [(Action.signedSet, .verdict 1)].Sublist executed ∧
      executed.Sublist [(.signedSet, .verdict 0), (.signedSet, .verdict 1)] ∧
      w.tee.store filename = executed.foldl (fun stored event => event.1.put .shipped stored)
        (some [0x00]) := by
  obtain ⟨start, w, run, held⟩ := repeated_set
  obtain ⟨executed, settled, possible, stored⟩ :=
    writes_at_most_once (fun _ => rfl) (losing_apart 3 _ (by decide)) run
  exact ⟨w, executed, settled, possible, held ▸ stored⟩

/-- The second attempt is confirmed and finds the coil as the first one has left it. -/
theorem retry_settles_shipped :
    ∃ start w, Run (network (.losing 3 0xFFFF0000 (by decide))) start
        [(.signedSet, .verdict 0), (.signedSet, .verdict 1)] w ∧
      start.tee.store filename = some [0x00] ∧ w.tee.store filename = some [0x80] := by
  obtain ⟨start, w, run, held⟩ := repeated_set
  refine ⟨start, w, run, held, ?_⟩
  have settles := retry_settles (fun _ => rfl) (losing_apart 3 _ (by decide)) run
    coilAddressInverterStatus 1
  refine (settles ?_ ?_).trans ?_
  · intro event member _
    rcases List.mem_cons.mp member with rfl | second
    · exact ⟨_, _, rfl⟩
    · obtain rfl := List.mem_singleton.mp second
      exact ⟨_, _, rfl⟩
  · exact ⟨_, List.mem_cons_of_mem _ List.mem_cons_self, rfl⟩
  · rw [held]
    decide

end Shipped

end InvCtrl
