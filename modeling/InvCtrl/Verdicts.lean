import InvCtrl.EndToEnd
import InvCtrl.Outcomes

/-! The two verdicts of the agent under every outcome of the client calls. A set returns
the code of a failed opening as its verdict and a verification the 0 it started from;
after a failed invocation both report what the host had put in. -/
namespace InvCtrl
open Interaction

/-- The application was reached, its reply came back, and it verified what it was sent. -/
structure Platform.Accepts (platform : Platform) (w : World) (invocation : Nat)
    (m signature : List UInt8) : Prop where
  opens : platform.Opens w.calls
  completes : platform.Completes invocation
  works : platform.env.VerifyWorks w.tee.cryptoCalls
  valid : platform.env.crypto.valid m signature = true

/-- The two verdicts, and nothing else. -/
def Unambiguous (verdict : Int32) (accepted : Prop) : Prop :=
  verdict = 1 ∧ accepted ∨ verdict = -1 ∧ ¬ accepted

theorem unambiguous_refused {verdict : Int32} {accepted : Prop} (refused : ¬ accepted) :
    Unambiguous verdict accepted ↔ verdict = -1 := by
  constructor
  · rintro (⟨_, held⟩ | ⟨same, _⟩)
    · exact absurd held refused
    · exact same
  · exact fun same => .inr ⟨same, refused⟩

theorem toInt32_refusal_iff (code : UInt32) : code.toInt32 = -1 ↔ code = 0xFFFFFFFF :=
  ⟨fun same => congrArg Int32.toUInt32 same, fun same => same ▸ rfl⟩

section Functions
variable {platform : Platform} (w : World) (transactionId coilAddress : Int32)
  (coilValue : UInt8) (signature : ByteMemory) (signatureLen : Int32)

section Set

theorem invCtrlSet_unopened (unopened : ¬ platform.Opens w.calls) :
    ((invCtrlSetCoilData transactionId coilAddress coilValue signature).run
      platform.handler w).1 = (platform.openingCode w.calls).toInt32 :=
  openedSession_unopened unopened _ _

theorem invCtrlSet_failed (opens : platform.Opens w.calls)
    (fails : ¬ platform.Completes (w.calls + 3)) :
    ((invCtrlSetCoilData transactionId coilAddress coilValue signature).run
      platform.handler w).1 = 0 := by
  simp only [invCtrlSetCoilData, hostSetCoilData1, openedSession_opened opens, Program.run_bind,
    Program.run_perform, Program.run_pure, Platform.handler]
  rw [invokedOnce_failed fails]
  rfl

theorem invCtrlSet_answered (carries : platform.link.Carries) (opens : platform.Opens w.calls)
    (completes : platform.Completes (w.calls + 3)) :
    Unambiguous ((invCtrlSetCoilData transactionId coilAddress coilValue signature).run
        platform.handler w).1
      (platform.Accepts w (w.calls + 3) (message coilValue (low16 transactionId))
        (signature.slice 0 128)) := by
  obtain ⟨_, ⟨verdict, ⟨works, valid⟩, _⟩ | ⟨verdict, refused, _⟩⟩ :=
    hostSetCoilData1_answered opens completes carries transactionId coilAddress coilValue signature
      128 (by decide)
  · exact .inl ⟨verdict, opens, completes, works, valid⟩
  · exact .inr ⟨verdict, fun accepts => refused ⟨accepts.works, accepts.valid⟩⟩

end Set

section Verify

theorem invCtrlVerify_unopened (unopened : ¬ platform.Opens w.calls) :
    ((invCtrlVerifyCoilData transactionId coilValue signature signatureLen).run
      platform.handler w).1.2 = 0 := by
  simp only [invCtrlVerifyCoilData, hostVerifyCoilData1, Program.run_bind, Program.run_pure,
    openedSession_unopened unopened]

theorem invCtrlVerify_failed (opens : platform.Opens w.calls)
    (fails : ¬ platform.Completes (w.calls + 2)) :
    ((invCtrlVerifyCoilData transactionId coilValue signature signatureLen).run
      platform.handler w).1.2 = 0 := by
  simp only [invCtrlVerifyCoilData, hostVerifyCoilData1, openedSession_opened opens,
    Program.run_bind, Program.run_pure]
  rw [invokedOnce_failed fails]
  rfl

theorem invCtrlVerify_answered (carries : platform.link.Carries) (opens : platform.Opens w.calls)
    (completes : platform.Completes (w.calls + 2)) :
    Unambiguous ((invCtrlVerifyCoilData transactionId coilValue signature signatureLen).run
        platform.handler w).1.2
      (platform.Accepts w (w.calls + 2) (message coilValue (low16 transactionId))
        (signature.slice 0 signatureLen.toUInt32.toNat)) := by
  obtain ⟨_, _, _, outcome⟩ := hostVerifyCoilData1_answered opens completes carries transactionId
    coilValue signature signatureLen 0
  simp only [invCtrlVerifyCoilData, Program.run_bind, Program.run_pure]
  rcases outcome with ⟨verdict, works, valid⟩ | ⟨verdict, refused⟩
  · exact .inl ⟨verdict, opens, completes, works, valid⟩
  · exact .inr ⟨verdict, fun accepts => refused ⟨accepts.works, accepts.valid⟩⟩

end Verify

/-- Each verdict is one of the two, and the right one, exactly if the invocation came
back; of the failures of a set, the opening that fails with all ones also reads as -1. -/
theorem verdicts_unambiguous_iff (carries : platform.link.Carries) :
    let m := message coilValue (low16 transactionId)
    (Unambiguous ((invCtrlSetCoilData transactionId coilAddress coilValue signature).run
          platform.handler w).1
        (platform.Accepts w (w.calls + 3) m (signature.slice 0 128)) ↔
      platform.Opens w.calls ∧ platform.Completes (w.calls + 3) ∨
        platform.openingCode w.calls = 0xFFFFFFFF) ∧
    (Unambiguous ((invCtrlVerifyCoilData transactionId coilValue signature signatureLen).run
          platform.handler w).1.2
        (platform.Accepts w (w.calls + 2) m (signature.slice 0 signatureLen.toUInt32.toNat)) ↔
      platform.Opens w.calls ∧ platform.Completes (w.calls + 2)) := by
  intro m
  have nothing : (0 : Int32) ≠ -1 := by decide
  by_cases opens : platform.Opens w.calls
  case neg =>
    constructor
    · rw [unambiguous_refused fun accepted => opens accepted.opens,
        invCtrlSet_unopened w _ _ _ _ opens, toInt32_refusal_iff]
      exact ⟨.inr, fun holds => holds.resolve_left fun both => opens both.1⟩
    · rw [unambiguous_refused fun accepted => opens accepted.opens,
        invCtrlVerify_unopened w _ _ _ _ opens]
      exact ⟨fun same => absurd same nothing, fun both => absurd both.1 opens⟩
  have code : platform.openingCode w.calls ≠ 0xFFFFFFFF := by
    rw [show platform.openingCode w.calls = teecSuccess from opens]
    decide
  constructor
  · by_cases completes : platform.Completes (w.calls + 3)
    · have answered := invCtrlSet_answered w transactionId coilAddress coilValue signature carries
        opens completes
      exact ⟨fun _ => .inl ⟨opens, completes⟩, fun _ => answered⟩
    · rw [unambiguous_refused fun accepted => completes accepted.completes,
        invCtrlSet_failed w _ _ _ _ opens completes]
      refine ⟨fun same => absurd same nothing, fun holds => ?_⟩
      exact holds.elim (fun both => absurd both.2 completes) fun ones => absurd ones code
  · by_cases completes : platform.Completes (w.calls + 2)
    · have answered := invCtrlVerify_answered w transactionId coilValue signature signatureLen
        carries opens completes
      exact ⟨fun _ => ⟨opens, completes⟩, fun _ => answered⟩
    · rw [unambiguous_refused fun accepted => completes accepted.completes,
        invCtrlVerify_failed w _ _ _ _ opens completes]
      exact ⟨fun same => absurd same nothing, fun both => absurd both.2 completes⟩

end Functions

section Shipped

/-- The verdicts on a value under its own signature and on the other value under it. -/
theorem verdicts_unambiguous_shipped :
    let signature := ByteMemory.ofBytes (Crypto.reference.signature (message 1 7))
    let w : World := .holding [0x00]
    let set (coilValue : UInt8) := ((invCtrlSetCoilData 7 0x13 coilValue signature).run
      Platform.reference.handler w).1
    let verify (coilValue : UInt8) := ((invCtrlVerifyCoilData 7 coilValue signature 128).run
      Platform.reference.handler w).1.2
    set 1 = 1 ∧ verify 1 = 1 ∧ set 0 = -1 ∧ verify 0 = -1 := by
  intro signature w set verify
  have carries := reference_works.delivers.carries
  have presented : signature.slice 0 128 = Crypto.reference.signature (message 1 7) :=
    ByteMemory.slice_ofBytes _
  have own : Crypto.reference.valid (message 1 7) (signature.slice 0 128) = true :=
    (reference_valid _ _).mpr ⟨rfl, presented⟩
  have other : ¬ Crypto.reference.valid (message 0 7) (signature.slice 0 128) = true := by
    intro valid
    have same := presented.symm.trans ((reference_valid _ _).mp valid).2
    exact absurd same (by decide)
  have accepts (invocation : Nat) :
      Platform.reference.Accepts w invocation (message 1 7) (signature.slice 0 128) :=
    ⟨by decide, rfl, reference_succeeds.crypto.verifyWorks _, own⟩
  have refuses (invocation : Nat) :
      ¬ Platform.reference.Accepts w invocation (message 0 7) (signature.slice 0 128) :=
    fun accepted => other accepted.valid
  have answered (coilValue : UInt8) :=
    verdicts_unambiguous_iff w 7 0x13 coilValue signature 128 carries
  have decided {verdict : Int32} {accepted : Prop} (held : accepted)
      (one : Unambiguous verdict accepted) : verdict = 1 :=
    one.elim And.left fun no => absurd held no.2
  refine ⟨?_, ?_, ?_, ?_⟩
  · exact decided (accepts 3) ((answered 1).1.mpr (.inl ⟨by decide, rfl⟩))
  · exact decided (accepts 2) ((answered 1).2.mpr ⟨by decide, rfl⟩)
  · exact (unambiguous_refused (refuses 3)).mp ((answered 0).1.mpr (.inl ⟨by decide, rfl⟩))
  · exact (unambiguous_refused (refuses 2)).mp ((answered 0).2.mpr ⟨by decide, rfl⟩)

/-- The shipped machine with every client call refused with this code. -/
def Platform.unreachable (code : UInt32) (failed : code ≠ teecSuccess) : Platform :=
  { Platform.reference with outcome := fun _ => .refused code failed }

/-- Refused with code 1 before the application is reached, a set reports 1 and a
verification 0. -/
theorem verdict_without_application :
    let platform := Platform.unreachable 1 (by decide)
    let w : World := .holding [0x00]
    ¬ Unambiguous ((invCtrlSetCoilData 7 0x13 1 (fun _ => 0)).run platform.handler w).1
        (platform.Accepts w 3 (message 1 7) (List.replicate 128 0)) ∧
      ¬ Unambiguous ((invCtrlVerifyCoilData 7 1 (fun _ => 0) 128).run platform.handler w).1.2
        (platform.Accepts w 2 (message 1 7) (List.replicate 128 0)) := by
  intro platform w
  have unopened : ¬ platform.Opens w.calls := by decide
  constructor
  · rw [unambiguous_refused fun accepted => unopened accepted.opens,
      invCtrlSet_unopened w _ _ _ _ unopened]
    decide
  · rw [unambiguous_refused fun accepted => unopened accepted.opens,
      invCtrlVerify_unopened w _ _ _ _ unopened]
    decide

end Shipped

end InvCtrl
