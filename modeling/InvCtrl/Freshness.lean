import InvCtrl.Agreement

/-! When an accepted answer to a read is fresh. The client checks a value and an id; it
does not learn when the signature was made, for which address, or by whom. -/
namespace InvCtrl
open Interaction Execution

section Freshness
variable {platform : Platform} (reliable : platform.Reliable) {start w : World}
  {before during after : NetworkHistory}

/-- At some moment after `before` and up to the end of `during` the stored coil was the
value. -/
def FreshRead (platform : Platform) (start : World) (before during : NetworkHistory)
    (value : UInt8) : Prop :=
  ∃ early late s, during = early ++ late ∧ Run (network platform) start (before ++ early) s ∧
    value = if s.tee.coil then 1 else 0

theorem mem_of_split {α : Type} {before during first rest : List α} {issue event : α}
    (apart : event ≠ issue) (split : before ++ issue :: during = first ++ event :: rest) :
    (∃ early, first = before ++ issue :: early ∧ during = early ++ event :: rest) ∨
      event ∈ before := by
  rcases List.append_eq_append_iff.mp split with ⟨middle, front, back⟩ | ⟨middle, front, back⟩
  · cases middle with
    | nil => exact absurd (List.cons.inj back).1.symm apart
    | cons head early =>
      obtain ⟨rfl, rest⟩ := List.cons.inj back
      exact .inl ⟨early, front, rest⟩
  · cases middle with
    | nil => exact absurd (List.cons.inj back).1 apart
    | cons head late =>
      obtain ⟨rfl, _⟩ := List.cons.inj back
      exact .inr (front ▸ List.mem_append_right _ List.mem_cons_self)

include reliable in
/-- An accepted answer to a read is fresh, unless the signature is a client's write
request with the same value and id, an answer for the coil from before the read was
issued, or an answer for another address, which is always 0. -/
theorem read_freshness (unsigned : start.tee.signed = []) (issuedId transactionId : Int32)
    (coilValue : UInt8) (signature : ByteMemory) (same : low16 transactionId = low16 issuedId)
    (run : Run (network platform) start
      (before ++ (.issueRead issuedId, .done) :: during ++
        (.verifyCoilData transactionId coilValue signature, .verdict 1) :: after) w) :
    let id := low16 issuedId
    FreshRead platform start (before ++ [(.issueRead issuedId, .done)]) during coilValue ∨
      (∃ event coilAddress, event ∈ before ++ during ∧ Requests event coilAddress coilValue id) ∨
      (∃ event, event ∈ before ∧ Answers event coilAddressInverterStatus coilValue id) ∨
      (coilValue = 0 ∧ ∃ event coilAddress, coilAddress ≠ coilAddressInverterStatus ∧
        event ∈ before ++ during ∧ Answers event coilAddress 0 id) := by
  intro id
  obtain ⟨s, prior, allowed, output, _⟩ := run.split_at
  obtain ⟨unforged, valid⟩ := accepted_valid reliable (.inr rfl) allowed output.symm
  rw [same] at valid
  obtain ⟨first, event, rest, v, split, earlier, shown, _, obtained, _⟩ :=
    presented_origin reliable unsigned prior unforged valid
  obtain ⟨coilAddress, origin⟩ := (signs_iff event _ _).mp obtained.signs
  have apart : event ≠ (.issueRead issuedId, .done) := by
    rintro rfl
    exact obtained.elim
  have place := mem_of_split apart split
  have member : event ∈ before ++ during := by
    rcases place with ⟨early, _, later⟩ | old
    · exact List.mem_append_right _ (later ▸ List.mem_append_right _ List.mem_cons_self)
    · exact List.mem_append_left _ old
  rcases origin with requested | answered
  · exact .inr (.inl ⟨event, coilAddress, member, requested⟩)
  have step := perform_step v reliable event.1
  rw [← shown] at step
  have value := step.answers answered
  rw [readValue_eq reliable.succeeds.storage] at value
  by_cases mapped : coilAddress = coilAddressInverterStatus
  · subst mapped
    simp only [true_and] at value
    rcases place with ⟨early, front, later⟩ | old
    · refine .inl ⟨early, event :: rest, v, later, ?_, value⟩
      rwa [front, List.append_cons] at earlier
    · exact .inr (.inr (.inl ⟨event, old, answered⟩))
  · have zero : coilValue = 0 := by rwa [if_neg fun both => mapped both.1] at value
    subst zero
    exact .inr (.inr (.inr ⟨rfl, event, coilAddress, mapped, member, answered⟩))

end Freshness

section Reference
variable {start s : World} {history : NetworkHistory}

theorem reference_issues (run : Run (network .reference) start history s) (id : Int32) :
    Run (network .reference) start (history ++ [(.issueRead id, .done)]) s :=
  run.append (Run.single (M := network .reference) s (.issueRead id) trivial rfl)

theorem reference_confirms (run : Run (network .reference) start history s) (transactionId : Int32)
    (value : UInt8) (signature : ByteMemory)
    (member : (message value (low16 transactionId), issued) ∈ s.tee.signed)
    (presented : signature.slice 0 128 =
      Crypto.reference.signature (message value (low16 transactionId))) :
    ∃ w, Run (network .reference) start
      (history ++ [(.verifyCoilData transactionId value signature, .verdict 1)]) w := by
  let check : Action := .verifyCoilData transactionId value signature
  obtain ⟨unforged, valid⟩ := reference_presents member presented
  have accepted : (perform .reference s check).1 = .verdict 1 :=
    (perform_verify_verdict s reference_works.toReliable transactionId value signature).mpr valid
  exact ⟨_, run.append (Run.single (M := network .reference) s check unforged accepted)⟩

/-- A read of a stored 1 that is issued, answered and confirmed. -/
theorem read_freshness_reference : ∃ answered signature w,
    Run (network .reference) (.holding [0x80])
      ([] ++ (.issueRead 7, .done) :: [answered] ++
        (.verifyCoilData 7 1 signature, .verdict 1) :: []) w ∧
    (FreshRead .reference (.holding [0x80]) ([] ++ [(.issueRead 7, .done)]) [answered] 1 ∨
      (∃ event coilAddress, event ∈ [] ++ [answered] ∧ Requests event coilAddress 1 7) ∨
      (∃ event, event ∈ [] ∧ Answers event coilAddressInverterStatus 1 7) ∨
      ((1 : UInt8) = 0 ∧ ∃ event coilAddress, coilAddress ≠ coilAddressInverterStatus ∧
        event ∈ [] ++ [answered] ∧ Answers event coilAddress 0 7)) := by
  have empty : Run (network .reference) (.holding [0x80]) [] (.holding [0x80]) := .nil
  have issue := reference_issues empty 7
  obtain ⟨answer, s, first, _, presented, _, member⟩ := reference_answers (.holding [0x80])
    7 0x13 1 7 (by rw [holding_coil]; decide) (by decide)
  obtain ⟨w, run⟩ := reference_confirms (issue.append first) 7 1 (answer.shift 1) member presented
  exact ⟨_, _, w, run, read_freshness reference_works.toReliable rfl 7 7 1 _ rfl run⟩

/-- From this store a read under id 7 is accepted with a value that was not stored since
it was issued, after an event of this kind. -/
def AcceptsStale (coilData : List UInt8) (value : UInt8) (kind : Action × Observation → Prop) :
    Prop :=
  ∃ before signature w, Run (network .reference) (.holding coilData)
      (before ++ (.issueRead 7, .done) :: [] ++
        (.verifyCoilData 7 value signature, .verdict 1) :: []) w ∧
    (∃ event, event ∈ before ∧ kind event) ∧
    ¬ FreshRead .reference (.holding coilData) (before ++ [(.issueRead 7, .done)]) [] value

theorem acceptsStale_of (run : Run (network .reference) (.holding coilData) history s)
    {value : UInt8} (signature : ByteMemory) (member : (message value 7, issued) ∈ s.tee.signed)
    (presented : signature.slice 0 128 = Crypto.reference.signature (message value 7))
    (stale : value ≠ if s.tee.coil then 1 else 0) {kind : Action × Observation → Prop}
    (cause : ∃ event, event ∈ history ∧ kind event) : AcceptsStale coilData value kind := by
  have issued := reference_issues run 7
  obtain ⟨w, accepted⟩ := reference_confirms issued 7 value signature member presented
  refine ⟨history, signature, w, accepted, cause, ?_⟩
  rintro ⟨early, late, t, nothing, reached, shown⟩
  obtain ⟨rfl, rfl⟩ := List.append_eq_nil_iff.mp nothing.symm
  rw [List.append_nil] at reached
  have state : t = s := reached.deterministic issued
  exact stale (state ▸ shown)

theorem request_acceptsStale : AcceptsStale [0x00] 1 (Requests · 0x13 1 7) := by
  have asked : requestValue 0xFF 0 = 1 := by decide
  have numbered : low16 (requestId 0 7) = 7 := by decide
  obtain ⟨answer, s, run, presented, store, member⟩ :=
    reference_requests (.holding [0x00]) 0x13 0 7 0xFF 0 1 7 asked numbered
  refine acceptsStale_of run answer member presented ?_ ⟨_, List.mem_cons_self, rfl, asked, numbered⟩
  rw [Tee.coil, store, ← Tee.coil, holding_coil]
  decide

theorem answer_acceptsStale : AcceptsStale [0x80] 1 (Answers · 0x13 1 7) := by
  have numbered : low16 7 = 7 := by decide
  obtain ⟨answer, s, first, shown, presented, _, member⟩ := reference_answers (.holding [0x80])
    7 0x13 1 7 (by rw [holding_coil]; decide) numbered
  obtain ⟨t, seeding, store, kept⟩ := reference_seeds s
  rw [← kept] at member
  refine acceptsStale_of (first.append seeding) (answer.shift 1) member presented ?_
    ⟨_, List.mem_cons_self, rfl, shown, numbered⟩
  rw [Tee.coil, store]
  decide

theorem other_acceptsStale : AcceptsStale [0x80] 0 (Answers · 0x14 0 7) := by
  have numbered : low16 7 = 7 := by decide
  obtain ⟨answer, s, run, shown, presented, store, member⟩ := reference_answers (.holding [0x80])
    7 0x14 0 7 (by rw [holding_coil]; decide) numbered
  refine acceptsStale_of run (answer.shift 1) member presented ?_
    ⟨_, List.mem_cons_self, rfl, shown, numbered⟩
  rw [Tee.coil, store, ← Tee.coil, holding_coil]
  decide

/-- A client's own request, an answer from before a seed and an answer for another
address are each accepted for a read although the stored coil differs. -/
theorem read_not_fresh :
    AcceptsStale [0x00] 1 (Requests · 0x13 1 7) ∧ AcceptsStale [0x80] 1 (Answers · 0x13 1 7) ∧
      AcceptsStale [0x80] 0 (Answers · 0x14 0 7) :=
  ⟨request_acceptsStale, answer_acceptsStale, other_acceptsStale⟩

end Reference

end InvCtrl
