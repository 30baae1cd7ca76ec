import InvCtrl.EndToEnd

/-! What the agent's two encoders append, under every outcome of the client calls and of
the signing. A read always appends the value and then as many bytes as the reported
length says; a signing always counts 128, whatever its copy loop did. -/
namespace InvCtrl
open Interaction

section Encoders
variable (platform : Platform) (w : World)

/-- The three client calls from `opening` on complete, and so does every call inside the
application that its signature depends on. -/
structure Platform.Obtains (opening : Nat) : Prop where
  opens : platform.Opens opening
  completes : platform.Completes (opening + 3)
  works : platform.env.SignWorks w.tee.cryptoCalls

/-- The encoder appends some bytes and counts them, the same ones to every buffer: a lead
and the signature just made, or nothing if none was obtained. -/
def AppendsSigned (encoder : ByteMemory → HostProgram (ByteMemory × Nat)) (reqLength : Nat)
    (tamper : Int32) (lead : List UInt8) (obtained : Prop) : Prop :=
  ∃ out, (∀ req, ((encoder req).run platform.handler w).1 =
      (req.overlay reqLength out, reqLength + out.length)) ∧
    ((obtained ∧ out.length = lead.length + 128 ∧
        ∃ m, out = lead ++ emitted tamper (platform.env.crypto.signature m) ∧
          ∀ req, ((encoder req).run platform.handler w).2.tee.signed =
            w.tee.signed ++ [(m, platform.env.crypto.signature m)]) ∨
      (¬ obtained ∧ out = []))

variable {platform w} {encoder : ByteMemory → HostProgram (ByteMemory × Nat)} {reqLength : Nat}
  {tamper : Int32} {lead : List UInt8} {obtained : Prop}

theorem obtained_of_counts
    (appends : AppendsSigned platform w encoder reqLength tamper lead obtained)
    (counts : reqLength < ((encoder fun _ => 0).run platform.handler w).1.2) : obtained := by
  obtain ⟨out, returned, ⟨held, _⟩ | ⟨_, rfl⟩⟩ := appends
  · exact held
  · rw [returned] at counts
    exact absurd counts (Nat.lt_irrefl _)

theorem appendsSigned_of_obtained (held : obtained) (m : List UInt8)
    (returned : ∀ req, ((encoder req).run platform.handler w).1 =
      (req.overlay reqLength (lead ++ emitted tamper (platform.env.crypto.signature m)),
        reqLength + (lead.length + 128)))
    (signed : ∀ req, ((encoder req).run platform.handler w).2.tee.signed =
      w.tee.signed ++ [(m, platform.env.crypto.signature m)]) :
    AppendsSigned platform w encoder reqLength tamper lead obtained := by
  have whole : (lead ++ emitted tamper (platform.env.crypto.signature m)).length =
      lead.length + 128 := by
    rw [List.length_append, emitted_length, Crypto.signature_length]
  refine ⟨_, fun req => ?_, .inl ⟨held, whole, m, rfl, signed⟩⟩
  rw [returned, whole]

end Encoders

section Agent
variable {platform : Platform} {w : World}

theorem read_counts (transactionId coilAddress : Int32) (req : ByteMemory) (reqLength : Nat)
    (serverTamper : Int32) :
    reqLength < ((invCtrlGetDataByCoilAddress transactionId coilAddress req reqLength
      serverTamper).run platform.handler w).1.2 := by
  simp only [invCtrlGetDataByCoilAddress, Program.run_bind, Program.run_pure]
  omega

theorem sign_counts (idHigh idLow valueHigh valueLow : UInt8) (req : ByteMemory) (reqLength : Nat)
    (clientTamper : Int32) :
    ((invCtrlSignCoilValue idHigh idLow valueHigh valueLow req reqLength
      clientTamper).run platform.handler w).1.2 = reqLength + 128 := by
  simp only [invCtrlSignCoilValue, Program.run_bind, Program.run_pure]

theorem read_appends (obtains : platform.Obtains w (w.calls + 1))
    (transactionId coilAddress : Int32) (req : ByteMemory) (reqLength : Nat)
    (serverTamper : Int32) :
    let r := (invCtrlGetDataByCoilAddress transactionId coilAddress req reqLength
      serverTamper).run platform.handler w
    let value := platform.env.coilValue platform.seed w.tee coilAddress.toUInt32
    let m := message value (low16 transactionId)
    r.1 = (req.overlay reqLength ([value] ++ emitted serverTamper (platform.env.crypto.signature m)),
        reqLength + ([value].length + 128)) ∧
      r.2.tee.signed = w.tee.signed ++ [(m, platform.env.crypto.signature m)] := by
  intro r value m
  simp only [r, invCtrlGetDataByCoilAddress, Program.run_bind, Program.run_perform,
    Program.run_pure, Platform.handler]
  let v : World := { w with calls := w.calls + 1 }
  have opens : platform.Opens v.calls := obtains.opens
  have completes : platform.Completes (v.calls + 3) := obtains.completes
  obtain ⟨out, reported, count, copied, _, ⟨_, rfl, signed⟩ | ⟨failing, _⟩⟩ :=
    hostGetDataByCoilAddress_answered opens completes transactionId coilAddress
      (platform.residue w.calls 0) (fun _ => 0) 0
  · refine ⟨?_, signed⟩
    rw [reported, count, copied, ByteMemory.copyLoop_eq_overlay, tampered_slice,
      Crypto.signature_length, Nat.add_assoc, Nat.add_comm 1]
    exact congrArg (·, reqLength + 129) (ByteMemory.overlay_cons req reqLength value _).symm
  · exact absurd obtains.works failing

theorem sign_appends (obtains : platform.Obtains w w.calls)
    (idHigh idLow valueHigh valueLow : UInt8) (reqLength : Nat) (clientTamper : Int32) :
    ∃ m, ∀ req, let r := (invCtrlSignCoilValue idHigh idLow valueHigh valueLow req reqLength
        clientTamper).run platform.handler w
      r.1 = (req.overlay reqLength ([] ++ emitted clientTamper (platform.env.crypto.signature m)),
          reqLength + (([] : List UInt8).length + 128)) ∧
        r.2.tee.signed = w.tee.signed ++ [(m, platform.env.crypto.signature m)] := by
  obtain ⟨m, out, _, count, copied, _, ⟨_, rfl, signed⟩ | ⟨failing, _⟩⟩ :=
    hostSignCoilValue1_answered obtains.opens obtains.completes (requestId idHigh idLow)
      (requestValue valueHigh valueLow) (fun _ => 0) 0
  · refine ⟨m, fun req => ?_⟩
    simp only [invCtrlSignCoilValue, Program.run_bind, Program.run_pure, requestValue_eq]
    rw [requestId] at count copied signed
    refine ⟨?_, signed⟩
    rw [count, copied, ByteMemory.copyLoop_eq_overlay, tampered_slice]
    rfl
  · exact absurd obtains.works failing

theorem read_unanswered (opens : platform.Opens (w.calls + 1))
    (fails : ¬ platform.Completes (w.calls + 4)) (transactionId coilAddress : Int32)
    (req : ByteMemory) (reqLength : Nat) :
    ((invCtrlGetDataByCoilAddress transactionId coilAddress req reqLength 0).run
      platform.handler w).1 =
        (req.overlay reqLength (0 :: (platform.residue (w.calls + 3)).slice 0 512),
          reqLength + 513) := by
  let v : World := { w with calls := w.calls + 1 }
  have opened : platform.Opens v.calls := opens
  have failed : ¬ platform.Completes (v.calls + 3) := fails
  have capacity : loopCount (512 : UInt32).toInt32 = 512 := loopCount_toInt32 512 (by decide)
  simp only [invCtrlGetDataByCoilAddress, hostGetDataByCoilAddress, Program.run_bind,
    Program.run_perform, Program.run_pure, Platform.handler]
  rw [openedSession_opened opened]
  simp only [Program.run_bind, Program.run_perform, Program.run_pure, Platform.handler]
  rw [invokedOnce_failed failed]
  simp only [TeecParam.size, TeecParam.buffer, TeecParam.a, capacity, tampered, ne_eq,
    not_true_eq_false, ↓reduceIte, ByteMemory.copyLoop_eq_overlay, ByteMemory.overlay_cons]
  have copied := ByteMemory.slice_overlay (fun _ => 0) 0 ((platform.residue (v.calls + 2)).slice 0 512)
  rw [ByteMemory.slice_length] at copied
  rw [copied]
  rfl

variable (platform w)

/-- Each encoder accounts for what it appends exactly if it obtains a signature. -/
theorem encoding_exact_iff (transactionId coilAddress : Int32)
    (idHigh idLow valueHigh valueLow : UInt8) (reqLength : Nat) (tamper : Int32) :
    (AppendsSigned platform w
        (invCtrlGetDataByCoilAddress transactionId coilAddress · reqLength tamper) reqLength tamper
        [platform.env.coilValue platform.seed w.tee coilAddress.toUInt32]
        (platform.Obtains w (w.calls + 1)) ↔ platform.Obtains w (w.calls + 1)) ∧
      (AppendsSigned platform w
        (invCtrlSignCoilValue idHigh idLow valueHigh valueLow · reqLength tamper) reqLength tamper []
        (platform.Obtains w w.calls) ↔ platform.Obtains w w.calls) := by
  refine ⟨⟨fun appends => ?_, fun obtains => ?_⟩, ⟨fun appends => ?_, fun obtains => ?_⟩⟩
  · exact obtained_of_counts appends (read_counts transactionId coilAddress _ reqLength tamper)
  · exact appendsSigned_of_obtained obtains _
      (fun req => (read_appends obtains transactionId coilAddress req reqLength tamper).1)
      fun req => (read_appends obtains transactionId coilAddress req reqLength tamper).2
  · refine obtained_of_counts appends ?_
    rw [sign_counts]
    omega
  · obtain ⟨m, appended⟩ := sign_appends obtains idHigh idLow valueHigh valueLow reqLength tamper
    exact appendsSigned_of_obtained obtains m (fun req => (appended req).1) fun req =>
      (appended req).2

end Agent

section Shipped

/-- The shipped machine: context and session are there, and every invocation is refused. -/
def Platform.unanswered : Platform :=
  { Platform.reference with
    outcome := fun call => if call < 3 then .completed else .refused 0xFFFF0000 (by decide) }

/-- Refused, a read appends 513 bytes, and a signing counts 128 of the 512 it copies. -/
theorem stale_bytes_counted :
    let w : World := .holding [0x00]
    ((invCtrlGetDataByCoilAddress 7 0x13 (fun _ => 0) 12 0).run Platform.unanswered.handler w).1.2 =
        525 ∧
      ¬ AppendsSigned .unanswered w (invCtrlGetDataByCoilAddress 7 0x13 · 12 0) 12 0
        [Platform.unanswered.env.coilValue .shipped w.tee 0x13]
        (Platform.unanswered.Obtains w (w.calls + 1)) ∧
      ¬ AppendsSigned .unanswered w (invCtrlSignCoilValue 0 7 0xFF 0 · 12 0) 12 0 []
        (Platform.unanswered.Obtains w w.calls) := by
  intro w
  refine ⟨?_, fun appends => ?_, fun appends => ?_⟩
  · rw [read_unanswered (by decide) (by decide)]
  · exact absurd (obtained_of_counts appends (read_counts ..)).completes (by decide)
  · refine absurd (obtained_of_counts appends ?_).completes (by decide)
    rw [sign_counts]
    decide

end Shipped

end InvCtrl
