import InvCtrl.EndToEnd

/-! What the two encoders of the agent do to the caller's message, under every outcome of
the client calls and of the signing: how many bytes of it they write, and that they
write no others. -/
namespace InvCtrl
open Interaction

section Length
variable (platform : Platform) (w : World)

/-- The signature bytes that a host function brings back: none without a session, and the
whole scratch array where no signature was made or its length did not come back. -/
def Platform.appended (opening : Nat) : Nat :=
  if platform.Opens opening then
    if platform.Completes (opening + 3) ∧ platform.env.SignWorks w.tee.cryptoCalls then 128 else 512
  else 0

theorem appended_le (opening : Nat) : platform.appended w opening ≤ 512 := by
  unfold Platform.appended
  split_ifs <;> omega

theorem appended_signed_iff (opening : Nat) :
    platform.appended w opening = 128 ↔ platform.Opens opening ∧
      platform.Completes (opening + 3) ∧ platform.env.SignWorks w.tee.cryptoCalls := by
  unfold Platform.appended
  split_ifs with opens signed
  · exact ⟨fun _ => ⟨opens, signed⟩, fun _ => rfl⟩
  · exact ⟨fun same => absurd same (by decide), fun all => absurd all.2 signed⟩
  · exact ⟨fun same => absurd same (by decide), fun all => absurd all.1 opens⟩

end Length

/-- A signature buffer of a caller, and the length, as a host function leaves them. -/
structure Returned (before after : ByteMemory) (signatureLen : Int32) (count : Nat) : Prop where
  counted : loopCount signatureLen = count
  bytes : ∃ out : List UInt8, out.length = count ∧ after = before.overlay 0 out

section Host
variable {platform : Platform} {w : World}

theorem returned_cases {before after : ByteMemory} {signatureLen : Int32}
    (unopened : ¬ platform.Opens w.calls → after = before ∧ signatureLen = 0)
    (failed : platform.Opens w.calls → ¬ platform.Completes (w.calls + 3) →
      ∃ scratch : ByteMemory, signatureLen = (512 : UInt32).toInt32 ∧
        after = ByteMemory.copyLoop scratch before 0 (loopCount signatureLen))
    (answered : platform.Opens w.calls → platform.Completes (w.calls + 3) →
      ∃ out : List UInt8, loopCount signatureLen = out.length ∧ after = before.overlay 0 out ∧
        (platform.env.SignWorks w.tee.cryptoCalls ∧ out.length = 128 ∨
          ¬ platform.env.SignWorks w.tee.cryptoCalls ∧ out.length = 512)) :
    Returned before after signatureLen (platform.appended w w.calls) := by
  unfold Platform.appended
  by_cases opens : platform.Opens w.calls
  case neg =>
    obtain ⟨rfl, rfl⟩ := unopened opens
    rw [if_neg opens]
    exact ⟨rfl, [], rfl, (ByteMemory.overlay_nil _ _).symm⟩
  rw [if_pos opens]
  by_cases completes : platform.Completes (w.calls + 3)
  case neg =>
    obtain ⟨scratch, rfl, rfl⟩ := failed opens completes
    have capacity : loopCount (512 : UInt32).toInt32 = 512 := loopCount_toInt32 512 (by decide)
    rw [if_neg fun both => completes both.1, capacity, ByteMemory.copyLoop_eq_overlay]
    exact ⟨capacity, _, ByteMemory.slice_length _ _ _, rfl⟩
  obtain ⟨out, counted, copied, ⟨works, length⟩ | ⟨fails, length⟩⟩ := answered opens completes
  · rw [if_pos ⟨completes, works⟩]
    exact ⟨counted.trans length, out, length, copied⟩
  · rw [if_neg fun both => fails both.2]
    exact ⟨counted.trans length, out, length, copied⟩

theorem outcome_lengths {env : Environment} {m out : List UInt8} {signed kept : Prop}
    (outcome : (env.SignWorks call ∧ out = env.crypto.signature m ∧ signed) ∨
      (¬ env.SignWorks call ∧ out = List.replicate 512 0 ∧ kept)) :
    (env.SignWorks call ∧ out.length = 128) ∨ (¬ env.SignWorks call ∧ out.length = 512) := by
  rcases outcome with ⟨works, rfl, _⟩ | ⟨fails, rfl, _⟩
  · exact .inl ⟨works, Crypto.signature_length _ _⟩
  · exact .inr ⟨fails, List.length_replicate⟩

end Host

section Functions
variable (platform : Platform) (w : World)

theorem hostGetDataByCoilAddress_returned (transactionId coilAddress : Int32) (coilValue : UInt8)
    (signature : ByteMemory) :
    let r := (hostGetDataByCoilAddress transactionId coilAddress coilValue signature 0).run
      platform.handler w
    Returned signature r.1.2.2.1 r.1.2.2.2 (platform.appended w w.calls) := by
  intro r
  apply returned_cases
  · intro unopened
    have stopped : r.1 = _ := openedSession_unopened unopened _ _
    rw [stopped]
    exact ⟨rfl, rfl⟩
  · intro opens fails
    simp only [r, hostGetDataByCoilAddress, openedSession_opened opens, Program.run_bind,
      Program.run_perform, Program.run_pure, Platform.handler]
    rw [invokedOnce_failed fails]
    exact ⟨_, rfl, rfl⟩
  · intro opens completes
    obtain ⟨out, _, counted, copied, _, outcome⟩ := hostGetDataByCoilAddress_answered opens
      completes transactionId coilAddress coilValue signature 0
    exact ⟨out, counted, copied, outcome_lengths outcome⟩

theorem hostSignCoilValue1_returned (transactionId : Int32) (coilValue : UInt8)
    (signature : ByteMemory) :
    let r := (hostSignCoilValue1 transactionId coilValue signature 0).run platform.handler w
    Returned signature r.1.2.1 r.1.2.2 (platform.appended w w.calls) := by
  intro r
  apply returned_cases
  · intro unopened
    have stopped : r.1 = _ := openedSession_unopened unopened _ _
    rw [stopped]
    exact ⟨rfl, rfl⟩
  · intro opens fails
    simp only [r, hostSignCoilValue1, openedSession_opened opens, Program.run_bind,
      Program.run_perform, Program.run_pure, Platform.handler]
    rw [invokedOnce_failed fails]
    exact ⟨_, rfl, rfl⟩
  · intro opens completes
    obtain ⟨out, _, counted, copied, _, outcome⟩ := hostSignCoilValue1_received opens completes
      transactionId coilValue signature 0
    exact ⟨out, counted, copied, outcome_lengths outcome⟩

end Functions

section Agent
variable (platform : Platform) (w : World)

/-- The tampered signature that the agent copies behind what it has written. -/
theorem Returned.appended {after : ByteMemory} {signatureLen : Int32} {count : Nat}
    (returned : Returned (fun _ => 0) after signatureLen count) (tamper : Int32)
    (req : ByteMemory) (start : Nat) :
    ∃ out : List UInt8, out.length = count ∧
      ByteMemory.copyLoop (tampered tamper after) req start (loopCount signatureLen) =
        req.overlay start out := by
  obtain ⟨counted, signature, rfl, rfl⟩ := returned
  refine ⟨emitted tamper signature, emitted_length _ _, ?_⟩
  rw [counted, ByteMemory.copyLoop_eq_overlay, tampered_slice]

/-- Whatever fails, the two encoders write a run of bytes from the given length on and
leave the rest of the message as it was. A read writes a value and up to 512 bytes, and
its length counts them; a signing writes up to 512 bytes, and the 128 that its length
counts are what it has written exactly if a signature was made and came back. -/
theorem encoders_write (transactionId coilAddress : Int32) (idHigh idLow valueHigh valueLow : UInt8)
    (req : ByteMemory) (reqLength : Nat) (tamper : Int32) :
    (∃ value out, out.length = platform.appended w (w.calls + 1) ∧ out.length ≤ 512 ∧
      ((invCtrlGetDataByCoilAddress transactionId coilAddress req reqLength tamper).run
        platform.handler w).1 =
          (req.overlay reqLength (value :: out), reqLength + (value :: out).length)) ∧
    (∃ out : List UInt8, out.length ≤ 512 ∧
      ((invCtrlSignCoilValue idHigh idLow valueHigh valueLow req reqLength tamper).run
        platform.handler w).1 = (req.overlay reqLength out, reqLength + 128) ∧
      (out.length = 128 ↔ platform.Opens w.calls ∧ platform.Completes (w.calls + 3) ∧
        platform.env.SignWorks w.tee.cryptoCalls)) := by
  constructor
  · simp only [invCtrlGetDataByCoilAddress, Program.run_bind, Program.run_perform,
      Program.run_pure, Platform.handler]
    let v : World := { w with calls := w.calls + 1 }
    let host := (hostGetDataByCoilAddress transactionId coilAddress (platform.residue w.calls 0)
      (fun _ => 0) 0).run platform.handler v
    have returned := hostGetDataByCoilAddress_returned platform v transactionId coilAddress
      (platform.residue w.calls 0) (fun _ => 0)
    obtain ⟨out, length, copied⟩ :=
      returned.appended tamper (req.write reqLength host.1.2.1) (reqLength + 1)
    refine ⟨host.1.2.1, out, length, length ▸ appended_le _ _ _, ?_⟩
    rw [copied, returned.counted, ByteMemory.overlay_cons, List.length_cons, length, Nat.add_assoc,
      Nat.add_comm 1]
  · simp only [invCtrlSignCoilValue, Program.run_bind, Program.run_pure, requestValue_eq]
    have returned := hostSignCoilValue1_returned platform w (requestId idHigh idLow)
      (requestValue valueHigh valueLow) (fun _ => 0)
    obtain ⟨out, length, copied⟩ := returned.appended tamper req reqLength
    rw [requestId] at copied
    refine ⟨out, length ▸ appended_le _ _ _, Prod.ext copied rfl, ?_⟩
    rw [length]
    exact appended_signed_iff platform w w.calls

end Agent

end InvCtrl
