import InvCtrl.Attestation
import InvCtrl.Outcomes

/-! The signature and the buffer it is copied to. The copy loop is bounded by what the
signature call returned or, after a failure, by the scratch array; the capacity that
the caller supplied bounds nothing, and the status is that of another call. -/
namespace InvCtrl
open Interaction

section Stores

/-- The call stores no byte through a parameter. -/
def TeeCall.Storeless : TeeCall → Prop
  | .storeByte .. => False
  | _ => True

/-- The call may store a byte behind this pointer, below this offset only. -/
def TeeCall.StoresBelow (pointer : UInt32) (bound : Nat) : TeeCall → Prop
  | .storeByte target offset _ => target = pointer ∧ offset < bound
  | _ => True

theorem TeeCall.Quiet.storeless {call : TeeCall} (quiet : call.Quiet) : call.Storeless := by
  cases call with
  | storeByte => exact quiet.elim
  | _ => trivial

theorem TeeCall.StoresBelow.mono {call : TeeCall} (below : call.StoresBelow pointer bound)
    (larger : bound ≤ limit) : call.StoresBelow pointer limit := by
  cases call with
  | storeByte => exact ⟨below.1, Nat.lt_of_lt_of_le below.2 larger⟩
  | _ => trivial

theorem TeeCall.Storeless.below {call : TeeCall} (storeless : call.Storeless) (pointer : UInt32)
    (bound : Nat) : call.StoresBelow pointer bound := by
  cases call with
  | storeByte => exact storeless.elim
  | _ => trivial

theorem taCopySignature_below (pointer : UInt32) (bound loop : Nat) (out : List UInt8)
    (fits : loop + out.length ≤ bound) :
    (taCopySignature pointer loop out).Uses (TeeCall.StoresBelow pointer bound) := by
  induction out generalizing loop with
  | nil => trivial
  | cons value rest ih =>
    have inside : loop < bound := by
      rw [List.length_cons] at fits
      omega
    rw [taCopySignature, Program.uses_perform_bind]
    refine ⟨⟨rfl, inside⟩, fun _ => ih (loop + 1) ?_⟩
    rw [List.length_cons] at fits
    omega

variable (env : Environment) (s : Tee)

/-- A signing stores only behind the signature's pointer and below the returned length. -/
theorem taSign_stores (dataToSign : Buffer) (dataLen : Nat) (signaturePtr signatureLen : UInt32)
    {event : TeeEvent}
    (made : event ∈ (taSign dataToSign dataLen signaturePtr signatureLen).trace env.handler s) :
    event.request.StoresBelow signaturePtr
      ((taSign dataToSign dataLen signaturePtr signatureLen).run env.handler s).1.2.toNat := by
  simp only [taSign, taSignAndVerify, taSignCase_eq, bind_assoc, pure_bind,
    Program.run_bind, Program.run_pure, Program.trace_bind, List.mem_append] at made ⊢
  rcases made with preparing | arming | signing | copying | freeing | none
  · exact ((taDigestAndKeys_quiet _ _).trace env.handler _ preparing).storeless.below _ _
  · exact ((armOperation_quiet _ _ _).trace env.handler _ arming).storeless.below _ _
  · have storeless : event.request.Storeless :=
      (taAsymmetricSignDigest_uses _ _ _ _ _ _ (by trivial)).trace env.handler _ signing
    exact storeless.below _ _
  · generalize (armOperation _ _ _).run env.handler _ = r at copying ⊢
    generalize (taDigestAndKeys dataToSign dataLen).run env.handler s = d at copying ⊢
    refine (taCopySignature_below _ _ 0 _ ?_).trace env.handler _ copying
    rcases taAsymmetricSignDigest_cases env r.2 r.1 algoParams d.1.2.1.1 d.1.2.1.2
        (List.replicate 512 0) with ⟨_, _, _, run⟩ | ⟨_, _, run⟩
    · rw [run, Nat.zero_add]
      exact List.length_take_le 128 _
    · rw [run, Nat.zero_add]
      exact List.length_take_le 512 _
  · have storeless (operation : Handle) : (taFreeOperation operation).Uses TeeCall.Storeless := by
      simp [taFreeOperation, TeeCall.Storeless]
    exact ((storeless _).trace env.handler _ freeing).below _ _
  · exact absurd none List.not_mem_nil

theorem taGetAllCoilDataUnpacked_storeless (buffer : Buffer) (size : Nat) (count : UInt32) :
    (taGetAllCoilDataUnpacked buffer size count).Uses TeeCall.Storeless := by
  simp [taGetAllCoilDataUnpacked, taOpenPersistentObject, taReadPersistentObject,
    taClosePersistentObject, TeeCall.Storeless]

end Stores

section Commands
variable {env : Environment} {seed : Seed} {s t : Tee} {request : Invocation} {m : List UInt8}

theorem Effect.succeeds {res : TeeResult} {params : TeeParams}
    (effect : Effect env seed request s res params t) (known : request.nCommandID ∈ CommandId.all) :
    res = teeSuccess := by
  cases effect with
  | unknown command => exact absurd known command
  | _ => rfl

theorem signing_outcome (signs : SignsBytes env seed s request m) :
    let r := env.invoke seed request s
    let pointer := request.pParams.p1.buffer
    r.1.1 = teeSuccess ∧ (r.1.2.p1.b = 128 ↔ env.SignWorks s.cryptoCalls) ∧
      ((r.1.2.p1.b = 128 ∧
        r.2.memory pointer = (request.memory pointer).overlay 0 (env.crypto.signature m) ∧
        r.2.signed = s.signed ++ [(m, env.crypto.signature m)]) ∨
      (r.1.2.p1.b = 512 ∧
        r.2.memory pointer = (request.memory pointer).overlay 0 (List.replicate 512 0) ∧
        r.2.signed = s.signed)) := by
  intro r pointer
  have effect := invoke_effect env seed request s
  rcases signs with ⟨command, rfl⟩ | ⟨command, rfl⟩
  · obtain ⟨_, result⟩ := effect.getData command
    rw [message_unsigned] at result
    exact ⟨effect.succeeds (by simp [command, CommandId.all]), getData_works_iff env seed s command,
      result.outcome⟩
  · exact ⟨effect.succeeds (by simp [command, CommandId.all]), signData_works_iff env seed s command,
      (effect.signData command).outcome⟩

theorem signing_stores (signs : SignsBytes env seed s request m)
    {event : TeeEvent} (made : event ∈ env.calls seed s request) :
    event.request.StoresBelow request.pParams.p1.buffer
      (env.invoke seed request s).1.2.p1.b.toNat := by
  rcases signs with ⟨command, _⟩ | ⟨command, _⟩
  · rw [Environment.calls, program_getDataByCoilAddress seed command] at made
    rw [invoke_eq, program_getDataByCoilAddress seed command]
    simp only [taGetDataByCoilAddress, Program.trace_bind, Program.run_bind, Program.run_pure,
      List.mem_append] at made ⊢
    rcases made with reading | signing | none
    · exact ((taGetAllCoilDataUnpacked_storeless _ _ _).trace env.handler _ reading).below _ _
    · exact taSign_stores env _ _ _ _ _ signing
    · exact absurd none List.not_mem_nil
  · rw [Environment.calls, program_signCoilData seed command] at made
    rw [invoke_eq, program_signCoilData seed command]
    simp only [taSignCoilData, Program.trace_bind, Program.run_bind, Program.run_pure,
      List.mem_append] at made ⊢
    rcases made with signing | none
    · exact taSign_stores env _ _ _ _ _ signing
    · exact absurd none List.not_mem_nil

end Commands

section Capacity
variable (env : Environment) (seed : Seed) (s : Tee) (request : Invocation) (m : List UInt8)

/-- A signing of `m` that keeps to the buffer it was given: it stores below the capacity
only, success means a signature valid for `m` of the returned length, and without
room or without a signature there is an error and no store. -/
structure RespectsBuffer : Prop where
  inside : ∀ event ∈ env.calls seed s request,
    event.request.StoresBelow request.pParams.p1.buffer request.pParams.p1.size.toNat
  signed : (env.invoke seed request s).1.1 = teeSuccess →
    env.crypto.valid m (((env.invoke seed request s).2.memory request.pParams.p1.buffer).slice 0
      (env.invoke seed request s).1.2.p1.b.toNat) = true
  refused : request.pParams.p1.size.toNat < (env.crypto.signature m).length ∨
      (env.invoke seed request s).2.signed = s.signed →
    (env.invoke seed request s).1.1 ≠ teeSuccess ∧
      ∀ event ∈ env.calls seed s request, event.request.Storeless

variable {env seed s request m}

/-- A signing keeps to its buffer exactly if the buffer has room for a signature and
every call that the signature depends on succeeds. -/
theorem buffer_respected_iff (signs : SignsBytes env seed s request m)
    (correct : env.crypto.valid m (env.crypto.signature m) = true) :
    RespectsBuffer env seed s request m ↔
      128 ≤ request.pParams.p1.size.toNat ∧ env.SignWorks s.cryptoCalls := by
  obtain ⟨done, works, outcome⟩ := signing_outcome signs
  constructor
  · intro respects
    have room : ¬ request.pParams.p1.size.toNat < (env.crypto.signature m).length := fun short =>
      (respects.refused (.inl short)).1 done
    rw [Crypto.signature_length] at room
    refine ⟨Nat.le_of_not_lt room, works.mp ?_⟩
    rcases outcome with ⟨length, _⟩ | ⟨_, _, unsigned⟩
    · exact length
    · exact absurd done (respects.refused (.inr unsigned)).1
  · rintro ⟨room, working⟩
    have length := works.mpr working
    have stored : (env.invoke seed request s).2.memory request.pParams.p1.buffer =
          (request.memory request.pParams.p1.buffer).overlay 0 (env.crypto.signature m) ∧
        (env.invoke seed request s).2.signed = s.signed ++ [(m, env.crypto.signature m)] := by
      rcases outcome with ⟨_, stored⟩ | ⟨failed, _⟩
      · exact stored
      · exact absurd (length.symm.trans failed) (by decide)
    constructor
    case inside =>
      intro event made
      have below := signing_stores signs made
      rw [length] at below
      exact below.mono room
    case signed =>
      intro _
      have count : (128 : UInt32).toNat = (env.crypto.signature m).length := by
        rw [Crypto.signature_length]
        rfl
      rw [stored.1, length, count, ByteMemory.slice_overlay]
      exact correct
    case refused =>
      rintro (short | unsigned)
      · rw [Crypto.signature_length] at short
        omega
      · rw [stored.2] at unsigned
        exact absurd unsigned (by simp)

end Capacity

section Shipped

/-- A signing of these bytes into a buffer of this capacity. -/
def Invocation.signInto (data : List UInt8) (capacity : UInt32) : Invocation :=
  { Invocation.signCoil data with
    pParams := { (Invocation.signCoil data).pParams with p1 := ⟨2, capacity⟩ } }

theorem signInto_signs (data : List UInt8) (capacity : UInt32) (fits : data.length < 2 ^ 32) :
    SignsBytes env seed s (.signInto data capacity) data :=
  .inr ⟨signCoil_command data, (signCoil_data data fits).symm⟩

/-- The buffer of the host library is large enough. -/
theorem buffer_respected_shipped :
    RespectsBuffer .reference .shipped (.holding [0x00]) (.signInto (message 1 7) 512)
      (message 1 7) := by
  have correct := (reference_valid (message 1 7) _).mpr ⟨rfl, rfl⟩
  refine (buffer_respected_iff (signInto_signs _ _ (by decide)) correct).mpr ⟨?_, ?_⟩
  · change 128 ≤ (512 : UInt32).toNat
    decide
  · exact reference_succeeds.crypto.signWorks _

/-- A buffer of 16 bytes has no room for the signature, and success is reported. -/
theorem buffer_overrun :
    ¬ RespectsBuffer .reference .shipped (.holding [0x00]) (.signInto (message 1 7) 16)
      (message 1 7) := by
  intro respects
  have signs : SignsBytes .reference .shipped (.holding [0x00]) (.signInto (message 1 7) 16)
    (message 1 7) := signInto_signs _ _ (by decide)
  obtain ⟨done, _⟩ := signing_outcome signs
  refine (respects.refused (.inl ?_)).1 done
  rw [Crypto.signature_length]
  change (16 : UInt32).toNat < 128
  decide

end Shipped

end InvCtrl
