import InvCtrl.Network

/-! What an accepted delivery says about the past. The key signs a value and an id for a
client's write request and for a server's answer alike, and no state remembers an
id, so acceptance shows that the pair was signed before and no more. -/
namespace InvCtrl
open Interaction Execution

section Reference
variable (s : World)

theorem reference_unforged {log : List (List UInt8 × List UInt8)} {m issued : List UInt8}
    (whole : m.length = 3) (member : (m, issued) ∈ log) :
    Unforged .reference log (Crypto.reference.signature m) := by
  intro other valid
  obtain ⟨otherWhole, same⟩ := (reference_valid other _).mp valid
  obtain rfl := reference_ideal.separates m other whole otherWhole (congrArg List.tail same)
  exact ⟨issued, member⟩

theorem reference_presents {log : List (List UInt8 × List UInt8)} {value : UInt8} {id : UInt16}
    {issued signature : List UInt8} (member : (message value id, issued) ∈ log)
    (presented : signature = Crypto.reference.signature (message value id)) :
    Unforged .reference log signature ∧
      Crypto.reference.valid (message value id) signature = true := by
  subst presented
  exact ⟨reference_unforged (message_length _ _) member,
    (reference_valid _ _).mpr ⟨message_length _ _, rfl⟩⟩

theorem reference_requests (coilAddress : Int32) (idHigh idLow valueHigh valueLow : UInt8)
    (value : UInt8) (id : UInt16) (asked : requestValue valueHigh valueLow = value)
    (numbered : low16 (requestId idHigh idLow) = id) :
    let action : Action :=
      .signCoilValue coilAddress idHigh idLow valueHigh valueLow (fun _ => 0) 0 0
    ∃ answer u, Run (network .reference) s [(action, .emitted answer 128)] u ∧
      answer.slice 0 128 = Crypto.reference.signature (message value id) ∧
      u.tee.store = s.tee.store ∧
      (message value id, Crypto.reference.signature (message value id)) ∈ u.tee.signed := by
  intro action
  subst asked numbered
  obtain ⟨returned, store, signed⟩ := sign_emits reference_works.toReliable s idHigh idLow
    valueHigh valueLow (fun _ => 0) 0 0
  let m := message (requestValue valueHigh valueLow) (low16 (requestId idHigh idLow))
  have output : (perform .reference s action).1 = .emitted
      (ByteMemory.overlay (fun _ => 0) 0 (emitted 0 (Crypto.reference.signature m))) 128 := by
    simp only [action, perform, returned]
    rfl
  have run := Run.single (M := network .reference) s action trivial output
  exact ⟨_, _, run, emitted_slice .reference _ 0 0 m, store,
    signed ▸ List.mem_append_right _ List.mem_cons_self⟩

theorem reference_answers (transactionId coilAddress : Int32) (value : UInt8) (id : UInt16)
    (reported : (if coilAddress = coilAddressInverterStatus ∧ s.tee.coil then 1 else 0) = value)
    (numbered : low16 transactionId = id) :
    let action : Action := .getDataByCoilAddress transactionId coilAddress (fun _ => 0) 0 0
    ∃ answer u, Run (network .reference) s [(action, .emitted answer 129)] u ∧
      answer 0 = value ∧
      (answer.shift 1).slice 0 128 = Crypto.reference.signature (message value id) ∧
      u.tee.store = s.tee.store ∧
      (message value id, Crypto.reference.signature (message value id)) ∈ u.tee.signed := by
  intro action
  have report : readValue .reference s coilAddress = _ :=
    readValue_eq reference_succeeds.storage coilAddress
  rw [← report] at reported
  subst reported numbered
  let value := readValue .reference s coilAddress
  let m := message value (low16 transactionId)
  obtain ⟨returned, store, signed⟩ := read_emits reference_works.toReliable s transactionId
    coilAddress (fun _ => 0) 0 0
  have output : (perform .reference s action).1 = .emitted
      ((ByteMemory.write (fun _ => 0) 0 value).overlay 1
        (emitted 0 (Crypto.reference.signature m))) 129 := by
    simp only [action, perform, returned]
    rfl
  have run := Run.single (M := network .reference) s action trivial output
  refine ⟨_, _, run, ?_, emitted_slice .reference _ 1 0 m, store,
    signed ▸ List.mem_append_right _ List.mem_cons_self⟩
  rw [ByteMemory.overlay_outside _ _ _ _ (.inl Nat.zero_lt_one)]
  exact ByteMemory.write_same _ _ _

theorem reference_seeds : ∃ u, Run (network .reference) s [(.seed, .done)] u ∧
    u.tee.store filename = some [0x00] ∧ u.tee.signed = s.tee.signed := by
  have run := Run.single (M := network .reference) s .seed trivial rfl
  have step : Step .reference s .seed ((network .reference).step s .seed).1
      ((network .reference).step s .seed).2 := perform_step s reference_works.toReliable .seed
  generalize (network .reference).step s .seed = r at step run
  obtain ⟨observation, u⟩ := r
  cases step with
  | seed store signed =>
    refine ⟨u, run, ?_, signed⟩
    rw [store, Function.update_self]
    rfl

end Reference

section Acceptance
variable {platform : Platform} (reliable : platform.Reliable) {w : World}
include reliable

theorem delivery_accepted (transactionId coilAddress : Int32) (coilValue : UInt8)
    (signature : ByteMemory)
    (unforged : Unforged platform.env.crypto w.tee.signed (signature.slice 0 128))
    (valid : platform.env.crypto.valid (message coilValue (low16 transactionId))
      (signature.slice 0 128) = true) :
    ∃ u, Run (network platform) w
        [(.setCoilData transactionId coilAddress coilValue signature, .verdict 1)] u ∧
      u.tee.signed = w.tee.signed ∧
      (coilAddress = coilAddressInverterStatus → u.tee.coil = (coilValue ≠ 0 : Bool)) := by
  obtain ⟨output, signed, coil⟩ := perform_set_accepted w reliable transactionId coilAddress
    coilValue signature valid
  let action : Action := .setCoilData transactionId coilAddress coilValue signature
  exact ⟨_, Run.single (M := network platform) w action unforged output, signed, coil⟩

end Acceptance

theorem reference_delivers {start s : World} {history : NetworkHistory}
    (run : Run (network .reference) start history s) (transactionId coilAddress : Int32)
    (value : UInt8) (signature : ByteMemory)
    (member : (message value (low16 transactionId), issued) ∈ s.tee.signed)
    (presented : signature.slice 0 128 =
      Crypto.reference.signature (message value (low16 transactionId))) :
    ∃ w, Run (network .reference) start
        (history ++ [(.setCoilData transactionId coilAddress value signature, .verdict 1)]) w ∧
      w.tee.signed = s.tee.signed ∧
      (coilAddress = coilAddressInverterStatus → w.tee.coil = (value ≠ 0 : Bool)) := by
  obtain ⟨unforged, valid⟩ := reference_presents member presented
  obtain ⟨w, delivery, kept⟩ := delivery_accepted reference_works.toReliable transactionId
    coilAddress value signature unforged valid
  exact ⟨w, run.append delivery, kept⟩

section Agreement
variable {platform : Platform} (reliable : platform.Reliable) {start w : World}
  {before after : NetworkHistory}

include reliable in
/-- Whoever delivers it, an accepted write of a value under an id was signed before: for
a client's request of that value under that id, to whatever address, or for a
server's answer with that value under that id. -/
theorem write_agreement (unsigned : start.tee.signed = []) (transactionId coilAddress : Int32)
    (coilValue : UInt8) (signature : ByteMemory)
    (run : Run (network platform) start
      (before ++ (.setCoilData transactionId coilAddress coilValue signature, .verdict 1) :: after)
      w) :
    ∃ event address, event ∈ before ∧ (Requests event address coilValue (low16 transactionId) ∨
      Answers event address coilValue (low16 transactionId)) := by
  obtain ⟨event, member, signs⟩ := set_origin reliable unsigned run
  obtain ⟨address, origin⟩ := (signs_iff event _ _).mp signs
  exact ⟨event, address, member, origin⟩

theorem request_authorises (address : Int32) : ∃ answer signature w,
    Run (network .reference) (.holding [0x00])
      ([(.signCoilValue address 0 7 0xFF 0 (fun _ => 0) 0 0, .emitted answer 128)] ++
        [(.setCoilData 7 0x13 1 signature, .verdict 1)]) w ∧
      Requests (.signCoilValue address 0 7 0xFF 0 (fun _ => 0) 0 0, .emitted answer 128)
        address 1 7 := by
  have asked : requestValue 0xFF 0 = 1 := by decide
  have numbered : low16 (requestId 0 7) = 7 := by decide
  obtain ⟨answer, u, first, presented, _, member⟩ :=
    reference_requests (.holding [0x00]) address 0 7 0xFF 0 1 7 asked numbered
  obtain ⟨w, run, _⟩ := reference_delivers first 7 0x13 1 answer member presented
  exact ⟨answer, answer, w, run, rfl, asked, numbered⟩

theorem write_agreement_reference : ∃ request signature w,
    Run (network .reference) (.holding [0x00])
      ([request] ++ [(.setCoilData 7 0x13 1 signature, .verdict 1)]) w ∧
    ∃ event address, event ∈ [request] ∧
      (Requests event address 1 7 ∨ Answers event address 1 7) := by
  obtain ⟨_, answer, _, run, _⟩ := request_authorises 0x13
  exact ⟨_, _, _, run, write_agreement reference_works.toReliable rfl 7 0x13 1 answer run⟩

end Agreement

/-- A server's answer authorises a write that no client requested, and a request to one
address authorises a write to another. -/
theorem write_not_agreed :
    (∃ before signature w, Run (network .reference) (.holding [0x00])
        (before ++ [(.setCoilData 7 0x13 0 signature, .verdict 1)]) w ∧
        ∀ event address, event ∈ before → ¬ Requests event address 0 7) ∧
      ∃ before signature w, Run (network .reference) (.holding [0x00])
        (before ++ [(.setCoilData 7 0x13 1 signature, .verdict 1)]) w ∧
        (∃ event, event ∈ before ∧ Requests event 0x14 1 7) ∧
        ∀ event, event ∈ before → ¬ Requests event 0x13 1 7 := by
  constructor
  · have clear : (World.holding [0x00]).tee.coil = false := by simp [PackedBits.get]
    obtain ⟨answer, u, first, _, presented, _, member⟩ :=
      reference_answers (.holding [0x00]) 7 0x13 0 7 (by simp [clear]) (by decide)
    obtain ⟨w, run, _⟩ := reference_delivers first 7 0x13 0 (answer.shift 1) member presented
    refine ⟨_, _, _, run, ?_⟩
    intro event address member
    obtain rfl := List.mem_singleton.mp member
    exact id
  · obtain ⟨_, signature, w, run, requested⟩ := request_authorises 0x14
    refine ⟨_, signature, w, run, ⟨_, List.mem_cons_self, requested⟩, ?_⟩
    intro event member elsewhere
    obtain rfl := List.mem_singleton.mp member
    exact absurd elsewhere.1 (by decide)

section Provenance
variable {platform : Platform} (reliable : platform.Reliable) {start w : World}
  {before after : NetworkHistory} {action : Action} {observation : Observation}

/-- The event is an accepted set, or an accepted verification, of these arguments. -/
def Accepts (event : Action × Observation) (transactionId : Int32) (value : UInt8)
    (signature : ByteMemory) : Prop :=
  event.2 = .verdict 1 ∧
    ((∃ coilAddress, event.1 = .setCoilData transactionId coilAddress value signature) ∨
      event.1 = .verifyCoilData transactionId value signature)

theorem Step.store (step : Step platform w action observation u)
    (changed : u.tee.store ≠ w.tee.store) :
    action = .seed ∨ ∃ transactionId coilAddress value signature,
      action = .setCoilData transactionId coilAddress value signature ∧
        observation = .verdict 1 := by
  cases step with
  | seed => exact .inl rfl
  | accepted transactionId coilAddress value signature =>
    exact .inr ⟨transactionId, coilAddress, value, signature, rfl, rfl⟩
  | issueRead => exact absurd rfl changed
  | request _ _ _ _ _ _ _ _ _ same | answer _ _ _ _ _ _ same | refused _ _ _ _ _ same
  | confirmed _ _ _ _ same | denied _ _ _ _ same => exact absurd same changed

include reliable in
/-- Every change of the store is a seed or an accepted set, and every acceptance goes
back to a call that obtained the presented signature on the same value and id. -/
theorem provenance (deterministic : platform.env.crypto.Deterministic)
    (unsigned : start.tee.signed = [])
    (run : Run (network platform) start (before ++ (action, observation) :: after) w) :
    ∃ s u, Run (network platform) start before s ∧
      Run (network platform) s [(action, observation)] u ∧ Run (network platform) u after w ∧
      (u.tee.store ≠ s.tee.store →
        action = .seed ∨ ∃ transactionId coilAddress value signature,
          action = .setCoilData transactionId coilAddress value signature ∧
            observation = .verdict 1) ∧
      ∀ transactionId value signature,
        Accepts (action, observation) transactionId value signature →
          (value = 0 ∨ value = 1) ∧
          ∃ first event rest v, before = first ++ event :: rest ∧
            Run (network platform) start first v ∧
            Obtained event value (low16 transactionId) (signature.slice 0 128) ∧
            (perform platform v event.1).2.tee.signed = v.tee.signed ++
              [(message value (low16 transactionId), signature.slice 0 128)] := by
  obtain ⟨s, first, allowed, output, last⟩ := run.split_at
  have step := perform_step s reliable action
  rw [show (perform platform s action).1 = observation from output.symm] at step
  refine ⟨s, _, first, .single s action allowed output.symm, last, step.store, ?_⟩
  rintro transactionId value signature ⟨rfl, checks⟩
  obtain ⟨unforged, valid⟩ := accepted_valid reliable checks allowed output.symm
  obtain ⟨first, event, rest, v, split, earlier, _, bit, obtained, signed⟩ :=
    presented_origin reliable unsigned first unforged valid
  rw [← deterministic _ _ valid] at obtained signed
  exact ⟨bit, first, event, rest, v, split, earlier, obtained, signed⟩

theorem provenance_reference : ∃ request signature w,
    Run (network .reference) (.holding [0x00])
      ([request] ++ [(.setCoilData 7 0x13 1 signature, .verdict 1)]) w ∧
    ∃ event, event ∈ [request] ∧ Obtained event 1 7 (signature.slice 0 128) := by
  obtain ⟨_, signature, _, run, _⟩ := request_authorises 0x13
  obtain ⟨_, _, _, _, _, _, accepted⟩ :=
    provenance reference_works.toReliable reference_deterministic rfl run
  obtain ⟨_, first, event, rest, _, split, _, obtained, _⟩ :=
    accepted 7 1 signature ⟨rfl, .inl ⟨0x13, rfl⟩⟩
  exact ⟨_, _, _, run, event, split ▸ List.mem_append_right _ List.mem_cons_self, obtained⟩

end Provenance

section Replay

/-- The event is an accepted set of this value under this id, to any address. -/
def AcceptsWrite (event : Action × Observation) (value : UInt8) (id : UInt16) : Prop :=
  match event with
  | (.setCoilData transactionId _ coilValue _, .verdict code) =>
    coilValue = value ∧ low16 transactionId = id ∧ code = 1
  | _ => False

/-- The event is a client's request to write this value under this id. -/
def RequestsWrite (event : Action × Observation) (value : UInt8) (id : UInt16) : Prop :=
  match event with
  | (.signCoilValue _ idHigh idLow valueHigh valueLow _ _ _, _) =>
    requestValue valueHigh valueLow = value ∧ low16 (requestId idHigh idLow) = id
  | _ => False

instance (event : Action × Observation) (value : UInt8) (id : UInt16) :
    Decidable (AcceptsWrite event value id) :=
  match event with
  | (.setCoilData .., .verdict _) => inferInstanceAs (Decidable (_ ∧ _))
  | (.setCoilData .., .done) | (.setCoilData .., .emitted ..) | (.seed, _)
  | (.signCoilValue .., _) | (.issueRead _, _) | (.getDataByCoilAddress .., _)
  | (.verifyCoilData .., _) => inferInstanceAs (Decidable False)

instance (event : Action × Observation) (value : UInt8) (id : UInt16) :
    Decidable (RequestsWrite event value id) :=
  match event with
  | (.signCoilValue .., _) => inferInstanceAs (Decidable (_ ∧ _))
  | (.seed, _) | (.issueRead _, _) | (.getDataByCoilAddress .., _) | (.setCoilData .., _)
  | (.verifyCoilData .., _) => inferInstanceAs (Decidable False)

/-- How often a history accepts a write of this value under this id. -/
def acceptances (history : NetworkHistory) (value : UInt8) (id : UInt16) : Nat :=
  history.countP (AcceptsWrite · value id)

/-- How often a history signs a client's request for this value under this id. -/
def requests (history : NetworkHistory) (value : UInt8) (id : UInt16) : Nat :=
  history.countP (RequestsWrite · value id)

variable {platform : Platform} (reliable : platform.Reliable) {start w : World}
  {before after : NetworkHistory} {coilValue : UInt8} {signature : ByteMemory}

include reliable in
/-- Deliveries of one signature are accepted as often as they are made. -/
theorem deliveries_accepted (transactionId coilAddress : Int32)
    (unforged : Unforged platform.env.crypto w.tee.signed (signature.slice 0 128))
    (valid : platform.env.crypto.valid (message coilValue (low16 transactionId))
      (signature.slice 0 128) = true) (count : Nat) :
    ∃ u, Run (network platform) w (List.replicate count
        (.setCoilData transactionId coilAddress coilValue signature, .verdict 1)) u ∧
      u.tee.signed = w.tee.signed ∧
      (0 < count → coilAddress = coilAddressInverterStatus → u.tee.coil = (coilValue ≠ 0 : Bool)) := by
  induction count with
  | zero => exact ⟨w, .nil, rfl, fun positive => absurd positive (Nat.lt_irrefl 0)⟩
  | succ count ih =>
    obtain ⟨u, run, signed, _⟩ := ih
    rw [← signed] at unforged
    obtain ⟨v, last, kept, coil⟩ := delivery_accepted reliable transactionId coilAddress coilValue
      signature unforged valid
    rw [List.replicate_succ']
    exact ⟨v, run.append last, kept.trans signed, fun _ => coil⟩

include reliable in
/-- An accepted write was signed before, but acceptance uses nothing up: from every later
state, whatever was written or seeded meanwhile, the same signature is accepted any
number of times again, without a further request, and sets the coil to its value. -/
theorem accepted_again (unsigned : start.tee.signed = []) (transactionId coilAddress : Int32)
    (run : Run (network platform) start
      (before ++ (.setCoilData transactionId coilAddress coilValue signature, .verdict 1) :: after)
      w) :
    let history :=
      before ++ (.setCoilData transactionId coilAddress coilValue signature, .verdict 1) :: after
    let id := low16 transactionId
    (∃ event, event ∈ before ∧ Signs event coilValue id) ∧
      ∀ transactionId' coilAddress', low16 transactionId' = id → ∀ count,
        let replay := List.replicate count
          (.setCoilData transactionId' coilAddress' coilValue signature, .verdict 1)
        ∃ u, Run (network platform) start (history ++ replay) u ∧
          requests (history ++ replay) coilValue id = requests history coilValue id ∧
          acceptances (history ++ replay) coilValue id =
            acceptances history coilValue id + count ∧
          (0 < count → coilAddress' = coilAddressInverterStatus →
            u.tee.coil = (coilValue ≠ 0 : Bool)) := by
  intro history id
  refine ⟨set_origin reliable unsigned run, ?_⟩
  intro transactionId' coilAddress' (same : low16 transactionId' = low16 transactionId) count replay
  obtain ⟨s, _, allowed, output, last⟩ := run.split_at
  obtain ⟨unforged, valid⟩ := accepted_valid reliable (.inl ⟨_, rfl⟩) allowed output.symm
  have later : Unforged platform.env.crypto w.tee.signed (signature.slice 0 128) :=
    unforged.mono fun entry member =>
      run_grows reliable last ((perform_step s reliable _).grows member)
  rw [← same] at valid
  obtain ⟨u, again, _, coil⟩ := deliveries_accepted reliable transactionId' coilAddress' later
    valid count
  refine ⟨u, run.append again, ?_, ?_, coil⟩
  · rw [requests, List.countP_append, List.countP_replicate]
    rfl
  · rw [acceptances, List.countP_append, List.countP_replicate]
    have accepts : AcceptsWrite
        (.setCoilData transactionId' coilAddress' coilValue signature, .verdict 1) coilValue id :=
      ⟨rfl, same, rfl⟩
    simp only [accepts, decide_true, ↓reduceIte]
    rfl

theorem request_counts (answer signature : ByteMemory) :
    let history : NetworkHistory :=
      [(.signCoilValue 0x13 0 7 0xFF 0 (fun _ => 0) 0 0, .emitted answer 128)] ++
        [(.setCoilData 7 0x13 1 signature, .verdict 1)]
    requests history 1 7 = 1 ∧ acceptances history 1 7 = 1 := by
  have asked : RequestsWrite (.signCoilValue 0x13 0 7 0xFF 0 (fun _ => 0) 0 0,
      .emitted answer 128) 1 7 := ⟨by decide, by decide⟩
  have taken : AcceptsWrite (.setCoilData 7 0x13 1 signature, .verdict 1) 1 7 :=
    ⟨rfl, by decide, rfl⟩
  have silent : ¬ AcceptsWrite (.signCoilValue 0x13 0 7 0xFF 0 (fun _ => 0) 0 0,
      .emitted answer 128) 1 7 := id
  have other : ¬ RequestsWrite (.setCoilData 7 0x13 1 signature, .verdict 1) 1 7 := id
  constructor
  · simp [requests, asked, other]
  · simp [acceptances, taken, silent]

theorem accepted_again_reference : ∃ history w,
    Run (network .reference) (.holding [0x00]) history w ∧
    requests history 1 7 = 1 ∧ acceptances history 1 7 = 4 := by
  obtain ⟨answer, signature, w, run, _⟩ := request_authorises 0x13
  obtain ⟨_, again⟩ := accepted_again reference_works.toReliable rfl 7 0x13 run
  obtain ⟨u, replayed, requested, accepted, _⟩ := again 7 0x13 rfl 3
  obtain ⟨once, first⟩ := request_counts answer signature
  exact ⟨_, u, replayed, requested.trans once, accepted.trans (congrArg (· + 3) first)⟩

/-- One request of 1 under id 7: accepted, undone by a seed, and accepted again. -/
theorem write_replayed : ∃ history w, Run (network .reference) (.holding [0x00]) history w ∧
    requests history 1 7 = 1 ∧ acceptances history 1 7 = 2 ∧ w.tee.coil = true := by
  have asked : requestValue 0xFF 0 = 1 := by decide
  have numbered : low16 (requestId 0 7) = 7 := by decide
  obtain ⟨answer, s, request, presented, _, member⟩ :=
    reference_requests (.holding [0x00]) 0x13 0 7 0xFF 0 1 7 asked numbered
  obtain ⟨t, first, kept, _⟩ := reference_delivers request 7 0x13 1 answer member presented
  obtain ⟨u, seeding, _, unchanged⟩ := reference_seeds t
  rw [← kept, ← unchanged] at member
  obtain ⟨w, second, _, coil⟩ :=
    reference_delivers (first.append seeding) 7 0x13 1 answer member presented
  obtain ⟨requested, accepted⟩ := request_counts answer answer
  refine ⟨_, w, second, ?_, ?_, coil rfl⟩
  · rw [requests, List.countP_append, List.countP_append, ← requests, requested]
    rfl
  · rw [acceptances, List.countP_append, List.countP_append, ← acceptances, accepted]
    rfl

end Replay

end InvCtrl
