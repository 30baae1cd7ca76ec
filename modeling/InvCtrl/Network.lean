import InvCtrl.EndToEnd

/-! Clients, a server and an adversary on the network. Clients sign writes and check
answers, the server answers reads and applies writes, and the adversary delivers
any arguments whose signature it can present. One key signs for all of them, so
one trusted side stands for every machine that holds it. -/
namespace InvCtrl
open Interaction Execution

inductive Action where
  | seed
  /-- A client's write request; the address is the one it asks to write. -/
  | signCoilValue (coilAddress : Int32) (idHigh idLow valueHigh valueLow : UInt8)
      (req : ByteMemory) (reqLength : Nat) (clientTamper : Int32)
  /-- A client's read request for the mapped coil, before any answer to it. -/
  | issueRead (transactionId : Int32)
  | getDataByCoilAddress (transactionId coilAddress : Int32) (req : ByteMemory) (reqLength : Nat)
      (serverTamper : Int32)
  | setCoilData (transactionId coilAddress : Int32) (coilValue : UInt8) (signature : ByteMemory)
  | verifyCoilData (transactionId : Int32) (coilValue : UInt8) (signature : ByteMemory)

inductive Observation where
  | done
  | emitted (req : ByteMemory) (length : Nat)
  | verdict (code : Int32)

abbrev NetworkHistory := History Action Observation

section Network
variable (platform : Platform)

def perform (w : World) : Action → Observation × World
  | .seed => (.done, ((Agent.seed platform.seed).run platform.handler w).2)
  | .signCoilValue _ idHigh idLow valueHigh valueLow req reqLength clientTamper =>
    let r := (invCtrlSignCoilValue idHigh idLow valueHigh valueLow req reqLength clientTamper).run
      platform.handler w
    (.emitted r.1.1 r.1.2, r.2)
  | .issueRead _ => (.done, w)
  | .getDataByCoilAddress transactionId coilAddress req reqLength serverTamper =>
    let r := (invCtrlGetDataByCoilAddress transactionId coilAddress req reqLength serverTamper).run
      platform.handler w
    (.emitted r.1.1 r.1.2, r.2)
  | .setCoilData transactionId coilAddress coilValue signature =>
    let r := (invCtrlSetCoilData transactionId coilAddress coilValue signature).run
      platform.handler w
    (.verdict r.1, r.2)
  | .verifyCoilData transactionId coilValue signature =>
    let r := (invCtrlVerifyCoilData transactionId coilValue signature 128).run platform.handler w
    (.verdict r.1.2, r.2)

/-- Every action is possible at any time, but a delivered signature is valid only for
messages that the key has signed so far. -/
def Deliverable (w : World) : Action → Prop
  | .setCoilData _ _ _ signature | .verifyCoilData _ _ signature =>
    Unforged platform.env.crypto w.tee.signed (signature.slice 0 128)
  | _ => True

def network : Machine World Action Observation where
  step := perform platform
  admissible := Deliverable platform

end Network

/-- The event put a signature on this value and id under the key. -/
def Signs (event : Action × Observation) (value : UInt8) (id : UInt16) : Prop :=
  match event with
  | (.signCoilValue _ idHigh idLow valueHigh valueLow _ _ _, _) =>
    requestValue valueHigh valueLow = value ∧ low16 (requestId idHigh idLow) = id
  | (.getDataByCoilAddress transactionId _ _ reqLength _, .emitted answer _) =>
    answer reqLength = value ∧ low16 transactionId = id
  | _ => False

/-- The event is a client's request to write this value to an address under this id. -/
def Requests (event : Action × Observation) (coilAddress : Int32) (value : UInt8) (id : UInt16) :
    Prop :=
  match event with
  | (.signCoilValue address idHigh idLow valueHigh valueLow _ _ _, _) =>
    address = coilAddress ∧ requestValue valueHigh valueLow = value ∧
      low16 (requestId idHigh idLow) = id
  | _ => False

/-- The event is a server's answer with this value under this id for an address. -/
def Answers (event : Action × Observation) (coilAddress : Int32) (value : UInt8) (id : UInt16) :
    Prop :=
  match event with
  | (.getDataByCoilAddress transactionId address _ reqLength _, .emitted answer _) =>
    address = coilAddress ∧ answer reqLength = value ∧ low16 transactionId = id
  | _ => False

/-- In this event the trusted application returned this signature on the value and id,
and the agent appended it to its message, tampered with as the flag says. -/
def Obtained (event : Action × Observation) (value : UInt8) (id : UInt16)
    (signature : List UInt8) : Prop :=
  match event with
  | (.signCoilValue _ idHigh idLow valueHigh valueLow req reqLength clientTamper,
      .emitted answer _) =>
    requestValue valueHigh valueLow = value ∧ low16 (requestId idHigh idLow) = id ∧
      answer = req.overlay reqLength (emitted clientTamper signature)
  | (.getDataByCoilAddress transactionId _ req reqLength serverTamper, .emitted answer _) =>
    low16 transactionId = id ∧
      answer = (req.write reqLength value).overlay (reqLength + 1) (emitted serverTamper signature)
  | _ => False

theorem signs_iff (event : Action × Observation) (value : UInt8) (id : UInt16) :
    Signs event value id ↔
      ∃ coilAddress, Requests event coilAddress value id ∨ Answers event coilAddress value id := by
  obtain ⟨action, observation⟩ := event
  cases action <;> cases observation <;> simp [Signs, Requests, Answers]

theorem Obtained.signs {event : Action × Observation} {value : UInt8} {id : UInt16}
    {signature : List UInt8} (obtained : Obtained event value id signature) :
    Signs event value id := by
  obtain ⟨action, observation⟩ := event
  cases action <;> cases observation <;> try exact obtained.elim
  case signCoilValue.emitted => exact ⟨obtained.1, obtained.2.1⟩
  case getDataByCoilAddress.emitted =>
    obtain ⟨ids, rfl⟩ := obtained
    refine ⟨?_, ids⟩
    rw [ByteMemory.overlay_outside _ _ _ _ (.inl (Nat.lt_succ_self _))]
    exact ByteMemory.write_same _ _ _

section Steps
variable (platform : Platform) (w : World)

/-- The value that a read of this address reports in this state. -/
def readValue (coilAddress : Int32) : UInt8 :=
  platform.env.coilValue platform.seed w.tee coilAddress.toUInt32

/-- Everything an action does when nothing fails: what it emits or decides, the store
after it and the signatures in circulation. -/
inductive Step : Action → Observation → World → Prop where
  | seed {u : World}
      (store : u.tee.store = Function.update w.tee.store filename (some platform.seed.coilData))
      (signed : u.tee.signed = w.tee.signed) : Step .seed .done u
  | request (coilAddress : Int32) (idHigh idLow valueHigh valueLow : UInt8) (req : ByteMemory)
      (reqLength : Nat) (clientTamper : Int32) {answer : ByteMemory} {length : Nat} {u : World}
      (bytes : answer = req.overlay reqLength (emitted clientTamper (platform.env.crypto.signature
        (message (requestValue valueHigh valueLow) (low16 (requestId idHigh idLow))))))
      (store : u.tee.store = w.tee.store)
      (signed : u.tee.signed = w.tee.signed ++
        [(message (requestValue valueHigh valueLow) (low16 (requestId idHigh idLow)),
          platform.env.crypto.signature
            (message (requestValue valueHigh valueLow) (low16 (requestId idHigh idLow))))]) :
      Step (.signCoilValue coilAddress idHigh idLow valueHigh valueLow req reqLength clientTamper)
        (.emitted answer length) u
  | issueRead (transactionId : Int32) : Step (.issueRead transactionId) .done w
  | answer (transactionId coilAddress : Int32) (req : ByteMemory) (reqLength : Nat)
      (serverTamper : Int32) {answer : ByteMemory} {length : Nat} {u : World}
      (bytes : answer = (req.write reqLength (readValue platform w coilAddress)).overlay
        (reqLength + 1) (emitted serverTamper (platform.env.crypto.signature
          (message (readValue platform w coilAddress) (low16 transactionId)))))
      (store : u.tee.store = w.tee.store)
      (signed : u.tee.signed = w.tee.signed ++
        [(message (readValue platform w coilAddress) (low16 transactionId),
          platform.env.crypto.signature
            (message (readValue platform w coilAddress) (low16 transactionId)))]) :
      Step (.getDataByCoilAddress transactionId coilAddress req reqLength serverTamper)
        (.emitted answer length) u
  | accepted (transactionId coilAddress : Int32) (coilValue : UInt8) (signature : ByteMemory)
      {u : World}
      (valid : platform.env.crypto.valid (message coilValue (low16 transactionId))
        (signature.slice 0 128) = true)
      (store : u.tee.store = Function.update w.tee.store filename
        (some (platform.env.coilUpdate platform.seed w.tee coilAddress.toUInt32
          coilValue.toUInt32)))
      (signed : u.tee.signed = w.tee.signed) :
      Step (.setCoilData transactionId coilAddress coilValue signature) (.verdict 1) u
  | refused (transactionId coilAddress : Int32) (coilValue : UInt8) (signature : ByteMemory)
      {u : World}
      (invalid : ¬ platform.env.crypto.valid (message coilValue (low16 transactionId))
        (signature.slice 0 128) = true)
      (store : u.tee.store = w.tee.store) (signed : u.tee.signed = w.tee.signed) :
      Step (.setCoilData transactionId coilAddress coilValue signature) (.verdict (-1)) u
  | confirmed (transactionId : Int32) (coilValue : UInt8) (signature : ByteMemory) {u : World}
      (valid : platform.env.crypto.valid (message coilValue (low16 transactionId))
        (signature.slice 0 128) = true)
      (store : u.tee.store = w.tee.store) (signed : u.tee.signed = w.tee.signed) :
      Step (.verifyCoilData transactionId coilValue signature) (.verdict 1) u
  | denied (transactionId : Int32) (coilValue : UInt8) (signature : ByteMemory) {u : World}
      (invalid : ¬ platform.env.crypto.valid (message coilValue (low16 transactionId))
        (signature.slice 0 128) = true)
      (store : u.tee.store = w.tee.store) (signed : u.tee.signed = w.tee.signed) :
      Step (.verifyCoilData transactionId coilValue signature) (.verdict (-1)) u

variable {platform} (reliable : platform.Reliable)
include reliable

/-- The inversion lemma of the network: one action, one step. -/
theorem perform_step (action : Action) :
    Step platform w action (perform platform w action).1 (perform platform w action).2 := by
  have created := reliable.succeeds.storage.result
  cases action with
  | seed =>
    obtain ⟨signed, store⟩ := agentSeed_run reliable.delivers w platform.seed
    rw [if_pos (created _)] at store
    exact .seed store signed
  | issueRead transactionId => exact .issueRead transactionId
  | signCoilValue coilAddress idHigh idLow valueHigh valueLow req reqLength clientTamper =>
    obtain ⟨returned, store, signed⟩ :=
      sign_emits reliable w idHigh idLow valueHigh valueLow req reqLength clientTamper
    exact .request coilAddress _ _ _ _ _ _ _ (congrArg Prod.fst returned) store signed
  | getDataByCoilAddress transactionId coilAddress req reqLength serverTamper =>
    obtain ⟨returned, store, signed⟩ :=
      read_emits reliable w transactionId coilAddress req reqLength serverTamper
    exact .answer _ _ _ _ _ (congrArg Prod.fst returned) store signed
  | setCoilData transactionId coilAddress coilValue signature =>
    obtain ⟨signed, ⟨verdict, valid, store⟩ | ⟨verdict, invalid, store⟩⟩ := invCtrlSetCoilData_run
      reliable.delivers w transactionId coilAddress coilValue signature
    · rw [if_pos (created _)] at store
      simp only [perform, verdict]
      exact .accepted _ _ _ _ valid store signed
    · simp only [perform, verdict]
      exact .refused _ _ _ _ (fun valid => invalid ⟨reliable.succeeds.crypto, valid⟩) store signed
  | verifyCoilData transactionId coilValue signature =>
    obtain ⟨store, signed, ⟨verdict, valid⟩ | ⟨verdict, invalid⟩⟩ :=
      verify_delivers reliable w transactionId coilValue signature
    · simp only [perform, verdict]
      exact .confirmed _ _ _ valid store signed
    · simp only [perform, verdict]
      exact .denied _ _ _ invalid store signed

theorem perform_set_verdict (transactionId coilAddress : Int32) (coilValue : UInt8)
    (signature : ByteMemory) :
    (perform platform w (.setCoilData transactionId coilAddress coilValue signature)).1 =
        .verdict 1 ↔
      platform.env.crypto.valid (message coilValue (low16 transactionId))
        (signature.slice 0 128) = true := by
  have step := perform_step w reliable
    (.setCoilData transactionId coilAddress coilValue signature)
  generalize perform platform w _ = r at step ⊢
  obtain ⟨observation, u⟩ := r
  cases step with
  | accepted _ _ _ _ valid => exact ⟨fun _ => valid, fun _ => rfl⟩
  | refused _ _ _ _ invalid =>
    exact ⟨fun same => absurd (Observation.verdict.inj same) refusal_apart,
      fun valid => absurd valid invalid⟩

theorem perform_verify_verdict (transactionId : Int32) (coilValue : UInt8)
    (signature : ByteMemory) :
    (perform platform w (.verifyCoilData transactionId coilValue signature)).1 = .verdict 1 ↔
      platform.env.crypto.valid (message coilValue (low16 transactionId))
        (signature.slice 0 128) = true := by
  have step := perform_step w reliable (.verifyCoilData transactionId coilValue signature)
  generalize perform platform w _ = r at step ⊢
  obtain ⟨observation, u⟩ := r
  cases step with
  | confirmed _ _ _ valid => exact ⟨fun _ => valid, fun _ => rfl⟩
  | denied _ _ _ invalid =>
    exact ⟨fun same => absurd (Observation.verdict.inj same) refusal_apart,
      fun valid => absurd valid invalid⟩

theorem perform_set_accepted (transactionId coilAddress : Int32) (coilValue : UInt8)
    (signature : ByteMemory)
    (valid : platform.env.crypto.valid (message coilValue (low16 transactionId))
      (signature.slice 0 128) = true) :
    let r := perform platform w (.setCoilData transactionId coilAddress coilValue signature)
    r.1 = .verdict 1 ∧ r.2.tee.signed = w.tee.signed ∧
      (coilAddress = coilAddressInverterStatus → r.2.tee.coil = (coilValue ≠ 0 : Bool)) := by
  intro r
  have step : Step platform w _ r.1 r.2 := perform_step w reliable _
  clear_value r
  obtain ⟨observation, u⟩ := r
  cases step with
  | accepted _ _ _ _ _ store signed =>
    refine ⟨rfl, signed, ?_⟩
    rintro rfl
    have nonempty := List.length_pos_iff.mpr platform.seed.nonempty
    have mapped : coilAddressInverterStatus.toUInt32.toInt32 = coilAddressInverterStatus := rfl
    rw [Tee.coil, store, Function.update_self, coilUpdate_mapped _ _ _ _ _ mapped,
      UInt8.toUInt8_toUInt32]
    exact PackedBits.get_set_same _ _ _ (by rw [coilCopy_length]; omega)
  | refused _ _ _ _ invalid => exact absurd valid invalid

end Steps

section Log
variable {platform : Platform} {w u : World} {action : Action} {observation : Observation}

theorem readValue_eq (storage : platform.env.StorageSucceeds) (coilAddress : Int32) :
    readValue platform w coilAddress =
      if coilAddress = coilAddressInverterStatus ∧ w.tee.coil then 1 else 0 := by
  have address : coilAddress.toUInt32.toInt32 = coilAddress := rfl
  rw [readValue, coilValue_coil storage, address]

theorem requestValue_bit (high low : UInt8) :
    requestValue high low = 0 ∨ requestValue high low = 1 := by
  unfold requestValue
  split
  · exact .inr rfl
  · exact .inl rfl

theorem readValue_bit (coilAddress : Int32) :
    readValue platform w coilAddress = 0 ∨ readValue platform w coilAddress = 1 := by
  rw [readValue, Environment.coilValue, taGetCoilValue_address]
  split
  · exact .inr rfl
  · exact .inl rfl

/-- One step signs nothing, or one message whose signature it hands to the agent. -/
theorem Step.signed (step : Step platform w action observation u) :
    u.tee.signed = w.tee.signed ∨
      ∃ value id, (value = 0 ∨ value = 1) ∧
        Obtained (action, observation) value id
          (platform.env.crypto.signature (message value id)) ∧
        u.tee.signed = w.tee.signed ++
          [(message value id, platform.env.crypto.signature (message value id))] := by
  cases step with
  | seed _ signed | accepted _ _ _ _ _ _ signed | refused _ _ _ _ _ _ signed
  | confirmed _ _ _ _ _ signed | denied _ _ _ _ _ signed => exact .inl signed
  | issueRead => exact .inl rfl
  | request _ _ _ _ _ _ _ _ bytes _ signed =>
    exact .inr ⟨_, _, requestValue_bit _ _, ⟨rfl, rfl, bytes⟩, signed⟩
  | answer _ coilAddress _ _ _ bytes _ signed =>
    exact .inr ⟨_, _, readValue_bit coilAddress, ⟨rfl, bytes⟩, signed⟩

theorem Step.answers (step : Step platform w action observation u) {coilAddress : Int32}
    {value : UInt8} {id : UInt16}
    (answers : Answers (action, observation) coilAddress value id) :
    value = readValue platform w coilAddress := by
  cases step with
  | answer transactionId address req reqLength _ bytes =>
    obtain ⟨rfl, rfl, _⟩ := answers
    rw [bytes, ByteMemory.overlay_outside _ _ _ _ (.inl (Nat.lt_succ_self _))]
    exact ByteMemory.write_same _ _ _
  | seed | request | issueRead | accepted | refused | confirmed | denied => exact answers.elim

theorem Step.grows (step : Step platform w action observation u) {entry : List UInt8 × List UInt8}
    (member : entry ∈ w.tee.signed) : entry ∈ u.tee.signed := by
  rcases step.signed with same | ⟨_, _, _, _, added⟩
  · rw [same]
    exact member
  · rw [added]
    exact List.mem_append_left _ member

theorem Unforged.mono {crypto : Crypto} {log later : List (List UInt8 × List UInt8)}
    {signature : List UInt8} (unforged : Unforged crypto log signature)
    (grows : ∀ entry, entry ∈ log → entry ∈ later) : Unforged crypto later signature := by
  intro m valid
  obtain ⟨issued, member⟩ := unforged m valid
  exact ⟨issued, grows _ member⟩

end Log

section Runs
variable {platform : Platform} (reliable : platform.Reliable) {start w : World}
  {history before after : NetworkHistory}
include reliable

theorem run_grows (run : Run (network platform) start history w) {entry : List UInt8 × List UInt8}
    (member : entry ∈ start.tee.signed) : entry ∈ w.tee.signed :=
  run.state_invariant (fun w => entry ∈ w.tee.signed) member fun w action present _ =>
    (perform_step w reliable action).grows present

theorem signed_origin (unsigned : start.tee.signed = [])
    (run : Run (network platform) start history w) {entry : List UInt8 × List UInt8}
    (member : entry ∈ w.tee.signed) :
    ∃ before event after s value id, history = before ++ event :: after ∧
      Run (network platform) start before s ∧ event.2 = (perform platform s event.1).1 ∧
      (value = 0 ∨ value = 1) ∧
      entry = (message value id, platform.env.crypto.signature (message value id)) ∧
      Obtained event value id (platform.env.crypto.signature (message value id)) ∧
      (perform platform s event.1).2.tee.signed = s.tee.signed ++ [entry] := by
  have absent : entry ∉ start.tee.signed := by
    rw [unsigned]
    exact List.not_mem_nil
  obtain ⟨before, action, observation, after, s, split, first, _, rfl, missing, produced⟩ :=
    run.origin (fun w => entry ∈ w.tee.signed) absent member
  rcases (perform_step s reliable action).signed with same | ⟨value, id, bit, obtained, added⟩
  · have present : entry ∈ s.tee.signed := same ▸ produced
    exact absurd present missing
  · have present : entry ∈ s.tee.signed ++ [_] := added ▸ produced
    rcases List.mem_append.mp present with old | new
    · exact absurd old missing
    · obtain rfl := List.mem_singleton.mp new
      exact ⟨before, _, after, s, value, id, split, first, rfl, bit, rfl, obtained, added⟩

/-- A valid presented signature goes back to an event that obtained one on this value
and id. -/
theorem presented_origin (unsigned : start.tee.signed = [])
    (run : Run (network platform) start history w) {signature : List UInt8} {value : UInt8}
    {id : UInt16} (unforged : Unforged platform.env.crypto w.tee.signed signature)
    (valid : platform.env.crypto.valid (message value id) signature = true) :
    ∃ before event after s, history = before ++ event :: after ∧
      Run (network platform) start before s ∧ event.2 = (perform platform s event.1).1 ∧
      (value = 0 ∨ value = 1) ∧
      Obtained event value id (platform.env.crypto.signature (message value id)) ∧
      (perform platform s event.1).2.tee.signed = s.tee.signed ++
        [(message value id, platform.env.crypto.signature (message value id))] := by
  obtain ⟨issued, member⟩ := unforged _ valid
  obtain ⟨before, event, after, s, value', id', split, first, output, bit, entry, obtained,
    added⟩ := signed_origin reliable unsigned run member
  obtain ⟨rfl, rfl⟩ := message_inj.mp (Prod.mk.inj entry).1
  rw [entry] at added
  exact ⟨before, event, after, s, split, first, output, bit, obtained, added⟩

/-- A recorded acceptance, of a set or of a verification, rests on a valid signature
that could be presented. -/
theorem accepted_valid {action : Action} {transactionId : Int32} {coilValue : UInt8}
    {signature : ByteMemory}
    (checks : (∃ coilAddress, action = .setCoilData transactionId coilAddress coilValue signature) ∨
      action = .verifyCoilData transactionId coilValue signature) {s : World}
    (allowed : Deliverable platform s action)
    (output : (perform platform s action).1 = .verdict 1) :
    Unforged platform.env.crypto s.tee.signed (signature.slice 0 128) ∧
      platform.env.crypto.valid (message coilValue (low16 transactionId))
        (signature.slice 0 128) = true := by
  rcases checks with ⟨coilAddress, rfl⟩ | rfl
  · exact ⟨allowed, (perform_set_verdict s reliable _ _ _ _).mp output⟩
  · exact ⟨allowed, (perform_verify_verdict s reliable _ _ _).mp output⟩

theorem set_origin (unsigned : start.tee.signed = []) {transactionId coilAddress : Int32}
    {coilValue : UInt8} {signature : ByteMemory}
    (run : Run (network platform) start
      (before ++ (.setCoilData transactionId coilAddress coilValue signature, .verdict 1) :: after)
      w) :
    ∃ event, event ∈ before ∧ Signs event coilValue (low16 transactionId) := by
  obtain ⟨s, first, allowed, output, _⟩ := run.split_at
  obtain ⟨unforged, valid⟩ := accepted_valid reliable (.inl ⟨_, rfl⟩) allowed output.symm
  obtain ⟨_, event, _, _, split, _, _, _, obtained, _⟩ :=
    presented_origin reliable unsigned first unforged valid
  exact ⟨event, split ▸ List.mem_append_right _ List.mem_cons_self, obtained.signs⟩

end Runs

end InvCtrl
