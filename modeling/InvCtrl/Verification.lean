import InvCtrl.Outcomes

/-! Verification fails closed: whatever fails on the way ends in the verdict -1, and a
set that publishes -1 has made no call that reaches the store. -/
namespace InvCtrl
open Interaction

section Quiet

theorem taVerify_quiet (dataToSign : Buffer) (dataLen : Nat) (signaturePtr signatureLen : UInt32)
    (signatureVerified : Int32) :
    (taVerify dataToSign dataLen signaturePtr signatureLen signatureVerified).Uses
      TeeCall.Quiet :=
  taVerify_uses _ _ _ _ _ (taDigestAndKeys_quiet _ _) armOperation_quiet
    (fun _ _ _ => trivial) fun _ => trivial

variable (env : Environment) (seed : Seed) (s : Tee)

theorem setData_refused_quiet {request : Invocation}
    (command : request.nCommandID = CommandId.setDataByCoilAddress)
    (refused : (env.invoke seed request s).1.2.p3.a ≠ 1)
    {event : TeeEvent} (made : event ∈ env.calls seed s request) :
    event.request.Quiet := by
  rw [setData_published env seed s command, Ne, verdict_word_iff] at refused
  rw [Environment.calls, program_setDataByCoilAddress seed command] at made
  obtain ⟨_, verified⟩ := taVerify_verified env (request.supply s)
    (.shared request.pParams.p1.buffer) request.pParams.p1.size.toNat request.pParams.p2.buffer
    request.pParams.p2.size 0
  have quiet := taVerify_quiet (.shared request.pParams.p1.buffer) request.pParams.p1.size.toNat
    request.pParams.p2.buffer request.pParams.p2.size 0
  have rejected := verified.decided.resolve_left refused
  simp only [taSetDataByCoilAddress, Program.trace_bind] at made
  rw [if_pos rejected, Program.trace_pure, List.append_nil] at made
  exact quiet.trace env.handler _ made

end Quiet

section Refusals
variable (env : Environment) (seed : Seed) (s : Tee)

/-- Under every pattern of failures the verdict is 1 or -1, it is 1 exactly when the
calls of the verification succeed on a valid signature over the given bytes, and
a set whose verdict is not 1 makes no storage call and leaves the store alone. -/
theorem verification_fails_closed :
    (∀ (dataToSign : Buffer) (dataLen : Nat) (signaturePtr signatureLen : UInt32)
        (signatureVerified : Int32),
      let verdict := ((taVerify dataToSign dataLen signaturePtr signatureLen
        signatureVerified).run env.handler s).1.2
      (verdict = 1 ∨ verdict = -1) ∧
        (verdict = 1 ↔ env.VerifyWorks s.cryptoCalls ∧ env.crypto.valid
          (s.view dataToSign dataLen) (s.view (.shared signaturePtr) signatureLen.toNat) = true)) ∧
    ∀ request : Invocation, request.nCommandID = CommandId.setDataByCoilAddress →
      ¬ (env.VerifyWorks s.cryptoCalls ∧ env.crypto.valid (request.bytes request.pParams.p1)
        (request.bytes request.pParams.p2) = true) →
      let r := env.invoke seed request s
      r.1.2.p3.a = (-1 : Int32).toUInt32 ∧ r.2.store = s.store ∧
        ∀ event ∈ env.calls seed s request, event.request.Quiet := by
  constructor
  · intro dataToSign dataLen signaturePtr signatureLen signatureVerified verdict
    obtain ⟨_, verified⟩ :=
      taVerify_verified env s dataToSign dataLen signaturePtr signatureLen signatureVerified
    exact ⟨verified.decided, taVerify_verified_iff env s dataToSign dataLen signaturePtr
      signatureLen signatureVerified⟩
  · intro request command incomplete r
    have refused : r.1.2.p3.a ≠ 1 := fun one =>
      incomplete ((setData_works_iff env seed s command).mp one)
    obtain ⟨_, _, ⟨verdict, _⟩ | ⟨verdict, _, store⟩⟩ := (invoke_effect env seed request s).setData
      command
    · exact absurd verdict refused
    · exact ⟨verdict, store, fun event made =>
        setData_refused_quiet env seed s command refused made⟩

/-- The reference machine with one cryptographic call failing. -/
def Environment.refusing (call : Nat) : Environment :=
  { Environment.reference with
    cryptography := fun n => if n = call then .error teeErrorBadParameters (by decide) else .ok }

/-- A valid signature is accepted when no call fails, and refused when any one of the
seven needed calls does. -/
theorem verification_fails_closed_shipped :
    let request := Invocation.setCoil [1, 0, 7] (Crypto.reference.signature [1, 0, 7]) 0x13 1
    let s := Tee.holding [0x00]
    ((taVerify (.shared 1) 3 2 128 0).run Environment.reference.handler
        (request.supply s)).1.2 = 1 ∧
      ∀ step ∈ [0, 1, 2, 3, 6, 7, 8],
        let r := (Environment.refusing step).invoke .shipped request s
        r.1.2.p3.a = (-1 : Int32).toUInt32 ∧ r.2.store = s.store := by
  intro request s
  have valid := setCoil_valid [1, 0, 7] _ 0x13 1 .reference rfl rfl rfl
  constructor
  · obtain ⟨verifies, _⟩ := verification_fails_closed .reference .shipped (request.supply s)
    have succeeds : Environment.reference.CryptoSucceeds := fun _ => rfl
    exact (verifies (.shared 1) 3 2 128 0).2.mpr ⟨succeeds.verifyWorks _, valid⟩
  · intro step needed r
    have fails : ¬ (Environment.refusing step).VerifyWorks s.cryptoCalls := by
      intro works
      have answers : (Environment.refusing step).Answers (0 + step) := works step needed
      have refused : (Environment.refusing step).cryptography (0 + step) = .error _ _ :=
        if_pos (Nat.zero_add step)
      rw [Environment.Answers, refused] at answers
      cases answers
    obtain ⟨_, refuses⟩ := verification_fails_closed (.refusing step) .shipped s
    obtain ⟨verdict, store, _⟩ := refuses request (setCoil_command ..) fun both => fails both.1
    exact ⟨verdict, store⟩

end Refusals

end InvCtrl
