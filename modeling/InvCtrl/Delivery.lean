import InvCtrl.ClientCalls
import InvCtrl.Outcomes

/-! The host functions when every client call completes and the transport carries the
caller's bytes: each is then one invocation of the application whose parameters
are the arguments, and its results are the application's outputs. -/
namespace InvCtrl
open Interaction

structure Platform.Delivers (platform : Platform) : Prop where
  completes : ∀ call, platform.outcome call = .completed
  carries : platform.link.Carries

namespace Link
variable (link : Link) (call : Nat) (memory : UInt32 → ByteMemory)

@[simp] theorem share_same (i : Fin 4) (buffer : ByteMemory) (size : UInt32) :
    link.share call i (.memrefTempOutput buffer size) memory (link.base i) =
      link.sees call i buffer size := Function.update_self ..

theorem share_other (i j : Fin 4) (param : TeecParam) (apart : j ≠ i) :
    link.share call i param memory (link.base j) = memory (link.base j) := by
  cases param with
  | memrefTempOutput buffer size =>
    exact Function.update_of_ne (fun same => apart (link.distinct same)) _ _
  | none | valueInout => rfl

/-- The bytes that the application finds behind a reference. -/
def found (i : Fin 4) (buffer : ByteMemory) (size : UInt32) : List UInt8 :=
  (link.sees call i buffer size).slice 0 size.toNat

/-- They are the caller's if the transport carries those. -/
theorem found_carried (carries : link.Carries) (i : Fin 4) (buffer : ByteMemory) (size : UInt32) :
    link.found call i buffer size = buffer.slice 0 size.toNat :=
  ByteMemory.slice_congr fun offset bound => by
    rw [Nat.zero_add]
    exact carries call i buffer size offset bound

variable (params : TeecParams)

theorem shareAll_p0 (first : params.p0 = .memrefTempOutput buffer size) :
    link.shareAll call params memory (link.base 0) = link.sees call 0 buffer size := by
  rw [shareAll, share_other _ _ _ 3 0 _ (by decide), share_other _ _ _ 2 0 _ (by decide),
    share_other _ _ _ 1 0 _ (by decide), first, share_same]

theorem shareAll_p1 (second : params.p1 = .memrefTempOutput buffer size) :
    link.shareAll call params memory (link.base 1) = link.sees call 1 buffer size := by
  rw [shareAll, share_other _ _ _ 3 1 _ (by decide), share_other _ _ _ 2 1 _ (by decide), second,
    share_same]

theorem shareAll_p2 (third : params.p2 = .memrefTempOutput buffer size) :
    link.shareAll call params memory (link.base 2) = link.sees call 2 buffer size := by
  rw [shareAll, share_other _ _ _ 3 2 _ (by decide), third, share_same]

theorem p1_untouched {words : TeeParams} (second : params.p1 = .memrefTempOutput buffer size)
    (same : words.p1.b = size) (behind : memory (link.base 1) = link.sees call 1 buffer size) :
    (link.copyBackAll params words memory).p1.buffer =
      buffer.overlay 0 (link.found call 1 buffer size) := by
  simp only [Link.copyBackAll, Link.copyBack, second, same, behind, TeecParam.buffer,
    UInt32.le_refl, ↓reduceIte, found]

end Link

section Calls
variable {platform : Platform} (delivers : platform.Delivers) (w : World)
include delivers

theorem Platform.Delivers.complete (call : Nat) : platform.Completes call :=
  (TeecOutcome.code_success_iff _).mpr (delivers.completes call)

theorem Platform.Delivers.opens (call : Nat) : platform.Opens call :=
  (platform.opens_iff call).mpr ⟨delivers.complete _, delivers.complete _⟩

theorem openedSession_run (failed : UInt32 → α) (body : HostProgram α) :
    (openedSession failed body).run platform.handler w =
      body.run platform.handler { w with calls := w.calls + 2 } :=
  openedSession_opened (delivers.opens _) failed body

theorem invokedOnce_run (commandID : UInt32) (op : TeecParams) :
    let request := platform.request commandID op.paramTypes op w
    let r := platform.env.invoke platform.seed request w.tee
    (invokedOnce commandID op).run platform.handler w =
      (platform.link.copyBackAll op r.1.2 r.2.memory, ⟨r.2, w.calls + 3⟩) :=
  invokedOnce_completed (delivers.complete _) commandID op

end Calls

section Arguments

theorem loopCount_ofNat (len : Nat) (fits : len < 2 ^ 31) : loopCount (Int32.ofNat len) = len := by
  rw [loopCount, Int32.toInt_ofNat_of_lt fits, Int.toNat_natCast]

theorem toUInt32_ofNat (len : Nat) (fits : len < 2 ^ 31) :
    (Int32.ofNat len).toUInt32.toNat = len := by
  have word : (Int32.ofNat len).toUInt32 = UInt32.ofNat len := rfl
  rw [word, UInt32.toNat_ofNat_of_lt' (Nat.lt_trans fits (by decide))]

theorem loopCount_toInt32 (len : UInt32) (fits : len ≤ 512) :
    loopCount len.toInt32 = len.toNat := by
  have bound : len.toNat ≤ 512 := fits
  have word : len.toInt32 = Int32.ofNat len.toNat := by
    apply Int32.toBitVec_inj.mp
    simp
  rw [word, loopCount_ofNat _ (by omega)]

theorem signature_back (link : Link) (op : TeecParams) (words : TeeParams)
    (memory : UInt32 → ByteMemory) (signature before : ByteMemory) (out : List UInt8)
    (second : op.p1 = .memrefTempOutput buffer 512) (fits : words.p1.b ≤ 512)
    (length : out.length = words.p1.b.toNat)
    (written : memory (link.base 1) = before.overlay 0 out) :
    let back := (link.copyBackAll op words memory).p1
    back.size = words.p1.b ∧
      ByteMemory.copyLoop back.buffer signature 0 (loopCount back.size.toInt32) =
        signature.overlay 0 out := by
  have returned : (link.copyBackAll op words memory).p1 =
      .memrefTempOutput (buffer.overlay 0 out) words.p1.b := by
    simp only [Link.copyBackAll, Link.copyBack, second, if_pos fits, written, ← length,
      ByteMemory.slice_overlay]
  intro back
  rw [show back = _ from returned]
  refine ⟨rfl, ?_⟩
  simp only [TeecParam.size, TeecParam.buffer]
  rw [loopCount_toInt32 _ fits, ← length, ByteMemory.copyLoop_eq_overlay, ByteMemory.slice_overlay]

variable (platform : Platform) (w : World) (params : TeecParams)

/-- The bytes behind the first, second and third parameter of a request. -/
theorem request_p0 (first : params.p0 = .memrefTempOutput buffer size) :
    let request := platform.request commandID paramTypes params w
    request.bytes request.pParams.p0 = platform.link.found w.calls 0 buffer size := by
  simp only [Platform.request, Invocation.bytes, Link.words, first, Link.word, TeeParam.buffer,
    TeeParam.size, Link.shareAll_p0 _ _ _ _ first, Link.found]

theorem request_p1 (second : params.p1 = .memrefTempOutput buffer size) :
    let request := platform.request commandID paramTypes params w
    request.bytes request.pParams.p1 = platform.link.found w.calls 1 buffer size := by
  simp only [Platform.request, Invocation.bytes, Link.words, second, Link.word, TeeParam.buffer,
    TeeParam.size, Link.shareAll_p1 _ _ _ _ second, Link.found]

theorem request_p2 (third : params.p2 = .memrefTempOutput buffer size) :
    let request := platform.request commandID paramTypes params w
    request.bytes request.pParams.p2 = platform.link.found w.calls 2 buffer size := by
  simp only [Platform.request, Invocation.bytes, Link.words, third, Link.word, TeeParam.buffer,
    TeeParam.size, Link.shareAll_p2 _ _ _ _ third, Link.found]

end Arguments

theorem hostData_message (transactionId : Int32) (coilValue : UInt8) :
    hostData transactionId coilValue = message coilValue (low16 transactionId) :=
  message_signed coilValue transactionId

theorem hostData_slice (transactionId : Int32) (coilValue : UInt8) :
    (ByteMemory.ofBytes (hostData transactionId coilValue)).slice 0 (3 : UInt32).toNat =
      message coilValue (low16 transactionId) :=
  (ByteMemory.slice_ofBytes _).trans (hostData_message transactionId coilValue)

theorem Link.found_hostData (link : Link) (call : Nat) (carries : link.Carries) (i : Fin 4)
    (transactionId : Int32) (coilValue : UInt8) :
    link.found call i (.ofBytes (hostData transactionId coilValue)) 3 =
      message coilValue (low16 transactionId) :=
  (link.found_carried call carries i _ 3).trans (hostData_slice transactionId coilValue)

section Answered
variable {platform : Platform} {w : World} (opens : platform.Opens w.calls)
  (completes : platform.Completes (w.calls + 3))
include opens completes

/-- An answered signing, by the message that the application found: 128 signature bytes
and one more signed message, or after a failed call that the signature depends on 512
zeros. -/
theorem hostSignCoilValue1_received (transactionId : Int32) (coilValue : UInt8)
    (signature : ByteMemory) (signatureLen : Int32) :
    let r := (hostSignCoilValue1 transactionId coilValue signature signatureLen).run
      platform.handler w
    let m := platform.link.found (w.calls + 3) 0 (.ofBytes (hostData transactionId coilValue)) 3
    ∃ out, r.1.1 = 0 ∧ loopCount r.1.2.2 = out.length ∧ r.1.2.1 = signature.overlay 0 out ∧
      r.2.tee.store = w.tee.store ∧
      ((platform.env.SignWorks w.tee.cryptoCalls ∧ out = platform.env.crypto.signature m ∧
          r.2.tee.signed = w.tee.signed ++ [(m, platform.env.crypto.signature m)]) ∨
        (¬ platform.env.SignWorks w.tee.cryptoCalls ∧ out = List.replicate 512 0 ∧
          r.2.tee.signed = w.tee.signed)) := by
  intro r m
  let v : World := ⟨w.tee, w.calls + 2 + 1⟩
  let op : TeecParams :=
    ⟨.memrefTempOutput (.ofBytes (hostData transactionId coilValue)) 3,
      .memrefTempOutput (platform.residue (w.calls + 2)) 512, .none, .none⟩
  let request := platform.request CommandId.signCoilData op.paramTypes op v
  let inv := platform.env.invoke platform.seed request v.tee
  let back := (platform.link.copyBackAll op inv.1.2 inv.2.memory).p1
  have run : r = ((0, ByteMemory.copyLoop back.buffer signature 0 (loopCount back.size.toInt32),
      back.size.toInt32), ⟨inv.2, v.calls + 3⟩) := by
    simp only [r, hostSignCoilValue1, openedSession_opened opens, Program.run_bind,
      Program.run_perform, Program.run_pure, Platform.handler]
    rw [invokedOnce_completed completes]
  have data : request.bytes request.pParams.p0 = m := request_p0 platform v op rfl
  have result := (invoke_effect platform.env platform.seed request v.tee).signData rfl
  obtain ⟨out, length, fits, written, outcome⟩ :=
    result.decided (signData_works_iff platform.env platform.seed v.tee rfl)
  obtain ⟨size, copied⟩ := signature_back platform.link op inv.1.2 inv.2.memory signature _ out rfl
    fits length written
  rw [run]
  refine ⟨out, rfl, ?_, copied, result.store, data ▸ outcome⟩
  rw [show back.size = _ from size, loopCount_toInt32 _ fits, length]

theorem hostSignCoilValue1_answered (transactionId : Int32) (coilValue : UInt8)
    (signature : ByteMemory) (signatureLen : Int32) :
    let r := (hostSignCoilValue1 transactionId coilValue signature signatureLen).run
      platform.handler w
    ∃ m out, (platform.link.Carries → m = message coilValue (low16 transactionId)) ∧
      loopCount r.1.2.2 = out.length ∧ r.1.2.1 = signature.overlay 0 out ∧
      r.2.tee.store = w.tee.store ∧
      ((platform.env.SignWorks w.tee.cryptoCalls ∧ out = platform.env.crypto.signature m ∧
          r.2.tee.signed = w.tee.signed ++ [(m, platform.env.crypto.signature m)]) ∨
        (¬ platform.env.SignWorks w.tee.cryptoCalls ∧ out = List.replicate 512 0 ∧
          r.2.tee.signed = w.tee.signed)) := by
  intro r
  obtain ⟨out, _, count, copied, store, outcome⟩ := hostSignCoilValue1_received opens completes
    transactionId coilValue signature signatureLen
  exact ⟨_, out, fun carries => platform.link.found_hostData _ carries 0 transactionId coilValue,
    count, copied, store, outcome⟩

/-- An answered read: what the application reported, and the same two outcomes. -/
theorem hostGetDataByCoilAddress_answered (transactionId coilAddress : Int32) (coilValue : UInt8)
    (signature : ByteMemory) (signatureLen : Int32) :
    let r := (hostGetDataByCoilAddress transactionId coilAddress coilValue signature
      signatureLen).run platform.handler w
    let value := platform.env.coilValue platform.seed w.tee coilAddress.toUInt32
    let m := message value (low16 transactionId)
    ∃ out, r.1.2.1 = value ∧ loopCount r.1.2.2.2 = out.length ∧
      r.1.2.2.1 = signature.overlay 0 out ∧ r.2.tee.store = w.tee.store ∧
      ((platform.env.SignWorks w.tee.cryptoCalls ∧ out = platform.env.crypto.signature m ∧
          r.2.tee.signed = w.tee.signed ++ [(m, platform.env.crypto.signature m)]) ∨
        (¬ platform.env.SignWorks w.tee.cryptoCalls ∧ out = List.replicate 512 0 ∧
          r.2.tee.signed = w.tee.signed)) := by
  intro r value m
  let v : World := ⟨w.tee, w.calls + 2 + 1⟩
  let op : TeecParams :=
    ⟨.valueInout transactionId.toUInt32 coilAddress.toUInt32,
      .memrefTempOutput (platform.residue (w.calls + 2)) 512, .valueInout 0 0, .none⟩
  let request := platform.request CommandId.getDataByCoilAddress op.paramTypes op v
  let inv := platform.env.invoke platform.seed request v.tee
  let back := (platform.link.copyBackAll op inv.1.2 inv.2.memory).p1
  have run : r = ((0, inv.1.2.p2.a.toUInt8,
      ByteMemory.copyLoop back.buffer signature 0 (loopCount back.size.toInt32),
      back.size.toInt32), ⟨inv.2, v.calls + 3⟩) := by
    simp only [r, hostGetDataByCoilAddress, openedSession_opened opens, Program.run_bind,
      Program.run_perform, Program.run_pure, Platform.handler]
    rw [invokedOnce_completed completes]
    rfl
  obtain ⟨reported, result⟩ :=
    (invoke_effect platform.env platform.seed request v.tee).getData rfl
  obtain ⟨out, length, fits, written, outcome⟩ :=
    result.decided (getData_works_iff platform.env platform.seed v.tee rfl)
  obtain ⟨size, copied⟩ := signature_back platform.link op inv.1.2 inv.2.memory signature _ out rfl
    fits length written
  have built : [value, (request.pParams.p0.a >>> 8).toUInt8,
      (request.pParams.p0.a &&& 0x00ff).toUInt8] = m := message_unsigned value _
  rw [run]
  refine ⟨out, ?_, ?_, copied, result.store, built ▸ outcome⟩
  · rw [show inv.1.2.p2.a = value.toUInt32 from reported]
    exact UInt8.toUInt8_toUInt32 value
  · rw [show back.size = _ from size, loopCount_toInt32 _ fits, length]

/-- An answered set, by the data and the signature that the application found: accepted on
a valid signature if every call of the verification works, and refused otherwise. -/
theorem hostSetCoilData1_received (transactionId coilAddress : Int32) (coilValue : UInt8)
    (signature : ByteMemory) (signatureLen : Int32) :
    let r := (hostSetCoilData1 transactionId coilAddress coilValue signature signatureLen).run
      platform.handler w
    let buffer := ByteMemory.copyLoop signature (platform.residue (w.calls + 2)) 0
      (loopCount signatureLen)
    let accepted := platform.env.VerifyWorks w.tee.cryptoCalls ∧
      platform.env.crypto.valid
        (platform.link.found (w.calls + 3) 1 (.ofBytes (hostData transactionId coilValue)) 3)
        (platform.link.found (w.calls + 3) 2 buffer signatureLen.toUInt32) = true
    r.2.tee.signed = w.tee.signed ∧
      ((r.1 = 1 ∧ accepted ∧
        r.2.tee.store =
          if (platform.env.storage (w.tee.storageCalls + 3)).result = teeSuccess then
            Function.update w.tee.store filename (some (platform.env.coilUpdate platform.seed w.tee
              coilAddress.toUInt32 coilValue.toUInt32))
          else w.tee.store) ∨
      (r.1 = -1 ∧ ¬ accepted ∧ r.2.tee.store = w.tee.store)) := by
  intro r buffer accepted
  let v : World := ⟨w.tee, w.calls + 2 + 1⟩
  let op : TeecParams :=
    ⟨.valueInout coilAddress.toUInt32 coilValue.toUInt32,
      .memrefTempOutput (.ofBytes (hostData transactionId coilValue)) 3,
      .memrefTempOutput buffer signatureLen.toUInt32, .valueInout 0 0⟩
  let request := platform.request CommandId.setDataByCoilAddress op.paramTypes op v
  have run : r = ((platform.env.invoke platform.seed request v.tee).1.2.p3.a.toInt32,
      ⟨(platform.env.invoke platform.seed request v.tee).2, v.calls + 3⟩) := by
    simp only [r, hostSetCoilData1, openedSession_opened opens, Program.run_bind,
      Program.run_perform, Program.run_pure, Platform.handler]
    rw [invokedOnce_completed completes]
    rfl
  have command : request.nCommandID = CommandId.setDataByCoilAddress := rfl
  have works := setData_works_iff platform.env platform.seed v.tee command
  rw [show request.bytes request.pParams.p1 = _ from request_p1 platform v op rfl,
    show request.bytes request.pParams.p2 = _ from request_p2 platform v op rfl] at works
  obtain ⟨_, signed, outcome⟩ :=
    (invoke_effect platform.env platform.seed request v.tee).setData command
  rw [run]
  refine ⟨signed, ?_⟩
  rcases outcome with ⟨verdict, _, store⟩ | ⟨verdict, _, store⟩
  · exact .inl ⟨by rw [verdict]; rfl, works.mp verdict, store⟩
  · refine .inr ⟨by rw [verdict]; rfl, fun both => ?_, store⟩
    exact absurd (verdict.symm.trans (works.mpr both)) (by decide)

/-- The same for a set whose data and signature are carried. -/
theorem hostSetCoilData1_answered (carries : platform.link.Carries)
    (transactionId coilAddress : Int32) (coilValue : UInt8) (signature : ByteMemory) (len : Nat)
    (fits : len < 2 ^ 31) :
    let r := (hostSetCoilData1 transactionId coilAddress coilValue signature
      (Int32.ofNat len)).run platform.handler w
    let accepted := platform.env.VerifyWorks w.tee.cryptoCalls ∧
      platform.env.crypto.valid (message coilValue (low16 transactionId))
        (signature.slice 0 len) = true
    r.2.tee.signed = w.tee.signed ∧
      ((r.1 = 1 ∧ accepted ∧
        r.2.tee.store =
          if (platform.env.storage (w.tee.storageCalls + 3)).result = teeSuccess then
            Function.update w.tee.store filename (some (platform.env.coilUpdate platform.seed w.tee
              coilAddress.toUInt32 coilValue.toUInt32))
          else w.tee.store) ∨
      (r.1 = -1 ∧ ¬ accepted ∧ r.2.tee.store = w.tee.store)) := by
  have received := hostSetCoilData1_received opens completes transactionId coilAddress coilValue
    signature (Int32.ofNat len)
  simp only [platform.link.found_hostData _ carries, platform.link.found_carried _ carries,
    toUInt32_ofNat len fits, loopCount_ofNat len fits, ByteMemory.slice_copyLoop] at received
  exact received

end Answered

section Verified
variable {platform : Platform} {w : World} (opens : platform.Opens w.calls)
  (completes : platform.Completes (w.calls + 2))
include opens completes

/-- An answered verification: the verdict, decided in the same way, and the caller's
signature buffer with what the application found behind it. -/
theorem hostVerifyCoilData1_received (transactionId : Int32) (coilValue : UInt8)
    (signature : ByteMemory) (signatureLen signatureVerified : Int32) :
    let r := (hostVerifyCoilData1 transactionId coilValue signature signatureLen
      signatureVerified).run platform.handler w
    let presented := platform.link.found (w.calls + 2) 1 signature signatureLen.toUInt32
    let accepted := platform.env.VerifyWorks w.tee.cryptoCalls ∧
      platform.env.crypto.valid
        (platform.link.found (w.calls + 2) 0 (.ofBytes (hostData transactionId coilValue)) 3)
        presented = true
    r.1.1 = 0 ∧ r.1.2.1 = signature.overlay 0 presented ∧ r.2.tee.store = w.tee.store ∧
      r.2.tee.signed = w.tee.signed ∧ (r.1.2.2 = 1 ∧ accepted ∨ r.1.2.2 = -1 ∧ ¬ accepted) := by
  intro r presented accepted
  let v : World := ⟨w.tee, w.calls + 2⟩
  let op : TeecParams :=
    ⟨.memrefTempOutput (.ofBytes (hostData transactionId coilValue)) 3,
      .memrefTempOutput signature signatureLen.toUInt32, .valueInout 0 0, .none⟩
  let request := platform.request CommandId.verifyCoilData op.paramTypes op v
  let inv := platform.env.invoke platform.seed request v.tee
  have run : r = ((0, (platform.link.copyBackAll op inv.1.2 inv.2.memory).p1.buffer,
      inv.1.2.p2.a.toInt32), ⟨inv.2, v.calls + 3⟩) := by
    simp only [r, hostVerifyCoilData1, openedSession_opened opens, Program.run_bind,
      Program.run_pure]
    rw [invokedOnce_completed completes]
    rfl
  have command : request.nCommandID = CommandId.verifyCoilData := rfl
  have works := verifyData_works_iff platform.env platform.seed v.tee command
  obtain ⟨verdict, published, untouched, verified⟩ :=
    (invoke_effect platform.env platform.seed request v.tee).verifyData command
  have word : inv.1.2.p2.a = verdict.toUInt32 := published
  rw [show request.bytes request.pParams.p0 = _ from request_p0 platform v op rfl,
    show request.bytes request.pParams.p1 = _ from request_p1 platform v op rfl,
    show (platform.env.invoke platform.seed request v.tee).1.2.p2.a = _ from word,
    verdict_word_iff] at works
  obtain ⟨store, memory, signed, _⟩ := visible_ext verified.visible
  have behind : inv.2.memory (platform.link.base 1) =
      platform.link.sees v.calls 1 signature signatureLen.toUInt32 :=
    (congrFun memory _).trans (platform.link.shareAll_p1 v.calls v.tee.memory op rfl)
  have back := platform.link.p1_untouched v.calls inv.2.memory op rfl
    (congrArg TeeParam.b untouched) behind
  have returned : inv.1.2.p2.a.toInt32 = verdict := by
    rw [word]
    rfl
  rw [run]
  refine ⟨rfl, back, store, signed, ?_⟩
  simp only [returned]
  rcases verified.decided with one | other
  · exact .inl ⟨one, works.mp one⟩
  · refine .inr ⟨other, fun both => ?_⟩
    exact refusal_apart (other.symm.trans (works.mpr both))

theorem hostVerifyCoilData1_answered (carries : platform.link.Carries) (transactionId : Int32)
    (coilValue : UInt8) (signature : ByteMemory) (signatureLen signatureVerified : Int32) :
    let r := (hostVerifyCoilData1 transactionId coilValue signature signatureLen
      signatureVerified).run platform.handler w
    let accepted := platform.env.VerifyWorks w.tee.cryptoCalls ∧
      platform.env.crypto.valid (message coilValue (low16 transactionId))
        (signature.slice 0 signatureLen.toUInt32.toNat) = true
    r.1.2.1 = signature ∧ r.2.tee.store = w.tee.store ∧ r.2.tee.signed = w.tee.signed ∧
      (r.1.2.2 = 1 ∧ accepted ∨ r.1.2.2 = -1 ∧ ¬ accepted) := by
  have received := hostVerifyCoilData1_received opens completes transactionId coilValue signature
    signatureLen signatureVerified
  simp only [platform.link.found_hostData _ carries, platform.link.found_carried _ carries,
    ByteMemory.overlay_slice] at received
  exact received.2

end Verified

section Functions
variable {platform : Platform} (delivers : platform.Delivers) (w : World)

theorem delivered_outcome {env : Environment} {signed failed : Prop}
    (outcome : (env.SignWorks call ∧ signed) ∨ (¬ env.SignWorks call ∧ failed)) :
    signed ∨ (¬ env.CryptoSucceeds ∧ failed) :=
  outcome.imp And.right (And.imp_left fun fails succeeds => fails (succeeds.signWorks call))

theorem delivered_refusal {env : Environment} {valid : Prop}
    (refused : ¬ (env.VerifyWorks call ∧ valid)) : ¬ (env.CryptoSucceeds ∧ valid) :=
  fun both => refused ⟨both.1.verifyWorks call, both.2⟩

include delivers

theorem hostSetCoilData1_run (transactionId coilAddress : Int32) (coilValue : UInt8)
    (signature : ByteMemory) (len : Nat) (fits : len < 2 ^ 31) :
    let r := (hostSetCoilData1 transactionId coilAddress coilValue signature
      (Int32.ofNat len)).run platform.handler w
    let accepted := platform.env.crypto.valid (message coilValue (low16 transactionId))
      (signature.slice 0 len) = true
    r.2.tee.signed = w.tee.signed ∧
      ((r.1 = 1 ∧ accepted ∧
        r.2.tee.store =
          if (platform.env.storage (w.tee.storageCalls + 3)).result = teeSuccess then
            Function.update w.tee.store filename (some (platform.env.coilUpdate platform.seed w.tee
              coilAddress.toUInt32 coilValue.toUInt32))
          else w.tee.store) ∨
      (r.1 = -1 ∧ ¬ (platform.env.CryptoSucceeds ∧ accepted) ∧ r.2.tee.store = w.tee.store)) := by
  intro r accepted
  obtain ⟨signed, outcome⟩ := hostSetCoilData1_answered (delivers.opens w.calls)
    (delivers.complete (w.calls + 3)) delivers.carries transactionId coilAddress coilValue signature
    len fits
  refine ⟨signed, ?_⟩
  rcases outcome with ⟨verdict, ⟨_, valid⟩, store⟩ | ⟨verdict, refused, store⟩
  · exact .inl ⟨verdict, valid, store⟩
  · exact .inr ⟨verdict, delivered_refusal refused, store⟩

/-- The verdict of a verification through the host library; the caller's signature
buffer comes back as it was. -/
theorem hostVerifyCoilData1_run (transactionId : Int32) (coilValue : UInt8)
    (signature : ByteMemory) (len : Nat) (fits : len < 2 ^ 31) (signatureVerified : Int32) :
    let r := (hostVerifyCoilData1 transactionId coilValue signature (Int32.ofNat len)
      signatureVerified).run platform.handler w
    let accepted := platform.env.crypto.valid (message coilValue (low16 transactionId))
      (signature.slice 0 len) = true
    r.1.2.1 = signature ∧ r.2.tee.store = w.tee.store ∧ r.2.tee.signed = w.tee.signed ∧
      (r.1.2.2 = 1 ∧ accepted ∨
        r.1.2.2 = -1 ∧ ¬ (platform.env.CryptoSucceeds ∧ accepted)) := by
  intro r accepted
  obtain ⟨back, store, signed, outcome⟩ := hostVerifyCoilData1_answered (delivers.opens w.calls)
    (delivers.complete (w.calls + 2)) delivers.carries transactionId coilValue signature
    (Int32.ofNat len) signatureVerified
  rw [toUInt32_ofNat len fits] at outcome
  refine ⟨back, store, signed, ?_⟩
  rcases outcome with ⟨one, _, valid⟩ | ⟨other, refused⟩
  · exact .inl ⟨one, valid⟩
  · exact .inr ⟨other, delivered_refusal refused⟩

/-- A signing through the host library: 128 signature bytes and one more signed
message, or after a cryptographic failure 512 zeros. -/
theorem hostSignCoilValue1_run (transactionId : Int32) (coilValue : UInt8)
    (signature : ByteMemory) (signatureLen : Int32) :
    let r := (hostSignCoilValue1 transactionId coilValue signature signatureLen).run
      platform.handler w
    let m := message coilValue (low16 transactionId)
    ∃ out, loopCount r.1.2.2 = out.length ∧ r.1.2.1 = signature.overlay 0 out ∧
      r.2.tee.store = w.tee.store ∧
      ((out = platform.env.crypto.signature m ∧
          r.2.tee.signed = w.tee.signed ++ [(m, platform.env.crypto.signature m)]) ∨
        (¬ platform.env.CryptoSucceeds ∧ out = List.replicate 512 0 ∧
          r.2.tee.signed = w.tee.signed)) := by
  intro r m
  obtain ⟨sent, out, carried, count, copied, store, outcome⟩ := hostSignCoilValue1_answered
    (delivers.opens w.calls) (delivers.complete (w.calls + 3)) transactionId coilValue signature
    signatureLen
  obtain rfl := carried delivers.carries
  exact ⟨out, count, copied, store, delivered_outcome outcome⟩

/-- A read through the host library: what the application reported, and the same two
outcomes of the signing. -/
theorem hostGetDataByCoilAddress_run (transactionId coilAddress : Int32) (coilValue : UInt8)
    (signature : ByteMemory) (signatureLen : Int32) :
    let r := (hostGetDataByCoilAddress transactionId coilAddress coilValue signature
      signatureLen).run platform.handler w
    let value := platform.env.coilValue platform.seed w.tee coilAddress.toUInt32
    let m := message value (low16 transactionId)
    ∃ out, r.1.2.1 = value ∧ loopCount r.1.2.2.2 = out.length ∧
      r.1.2.2.1 = signature.overlay 0 out ∧ r.2.tee.store = w.tee.store ∧
      ((out = platform.env.crypto.signature m ∧
          r.2.tee.signed = w.tee.signed ++ [(m, platform.env.crypto.signature m)]) ∨
        (¬ platform.env.CryptoSucceeds ∧ out = List.replicate 512 0 ∧
          r.2.tee.signed = w.tee.signed)) := by
  intro r value m
  obtain ⟨out, reported, count, copied, store, outcome⟩ := hostGetDataByCoilAddress_answered
    (delivers.opens w.calls) (delivers.complete (w.calls + 3)) transactionId coilAddress coilValue
    signature signatureLen
  exact ⟨out, reported, count, copied, store, delivered_outcome outcome⟩

theorem hostSeedCoil_run :
    let r := hostSeedCoil.run platform.handler w
    r.2.tee.signed = w.tee.signed ∧ r.2.tee.store =
      if (platform.env.storage w.tee.storageCalls).result = teeSuccess then
        Function.update w.tee.store filename (some platform.seed.coilData)
      else w.tee.store := by
  intro r
  simp only [r, hostSeedCoil, openedSession_run delivers, Program.run_bind, Program.run_pure,
    invokedOnce_run delivers]
  let op : TeecParams := ⟨.none, .none, .none, .none⟩
  obtain ⟨store, signed⟩ := (invoke_effect platform.env platform.seed
    (platform.request CommandId.seedCoil op.paramTypes op ⟨w.tee, w.calls + 2⟩) w.tee).seedStore rfl
  exact ⟨signed, store⟩

theorem hostPrintAllCoilData_run (seed : Seed) :
    let r := (hostPrintAllCoilData seed).run platform.handler w
    r.2.tee.signed = w.tee.signed ∧ r.2.tee.store = w.tee.store := by
  intro r
  simp only [r, hostPrintAllCoilData, openedSession_run delivers, Program.run_bind,
    Program.run_perform, Program.run_pure, Platform.handler, invokedOnce_run delivers]
  obtain ⟨store, signed⟩ := (invoke_effect platform.env platform.seed
    (platform.request CommandId.getAllCoilData _ _ _) w.tee).getAllData rfl
  exact ⟨signed, store⟩

end Functions

section Agent

/-- The signature bytes that the agent appends under a tamper flag. -/
def emitted (tamper : Int32) (signature : List UInt8) : List UInt8 :=
  if tamper ≠ 0 then signature.modifyHead (· ^^^ 0xFF) else signature

theorem tampered_slice (tamper : Int32) (before : ByteMemory) (signature : List UInt8) :
    (tampered tamper (before.overlay 0 signature)).slice 0 signature.length =
      emitted tamper signature := by
  unfold tampered emitted
  split
  · cases signature with
    | nil => rfl
    | cons head rest =>
      have first : before.overlay 0 (head :: rest) 0 = head :=
        ByteMemory.overlay_inside before 0 0 (head :: rest) (by simp)
      rw [first, ByteMemory.overlay_write_head]
      exact ByteMemory.slice_overlay before 0 ((head ^^^ 0xFF) :: rest)
  · exact ByteMemory.slice_overlay _ _ _

@[simp] theorem emitted_length (tamper : Int32) (signature : List UInt8) :
    (emitted tamper signature).length = signature.length := by
  unfold emitted
  split <;> simp

/-- The id of a client's request. -/
def requestId (high low : UInt8) : Int32 := (promote high <<< 8) ||| promote low

/-- The value that the agent signs for a Modbus value word. -/
def requestValue (high low : UInt8) : UInt8 :=
  if high.toNat * 256 + low.toNat = 0xFF00 then 1 else 0

theorem requestValue_eq (high low : UInt8) :
    truncate (if (promote high <<< 8) ||| promote low = 0xFF00 then 1 else 0) =
      requestValue high low := by
  have word := word_toInt high low
  have same : (promote high <<< 8) ||| promote low = 0xFF00 ↔
      high.toNat * 256 + low.toNat = 0xFF00 := by
    have constant : (0xFF00 : Int32).toInt = 0xFF00 := by decide
    rw [← Int32.toInt_inj, word, constant]
    omega
  unfold requestValue
  split
  · next equal =>
    rw [if_pos (same.mp equal)]
    rfl
  · next differs =>
    rw [if_neg fun equal => differs (same.mpr equal)]
    rfl

variable {platform : Platform} (delivers : platform.Delivers) (w : World)
include delivers

theorem agentSeed_run (seed : Seed) :
    let r := (Agent.seed seed).run platform.handler w
    r.2.tee.signed = w.tee.signed ∧ r.2.tee.store =
      if (platform.env.storage w.tee.storageCalls).result = teeSuccess then
        Function.update w.tee.store filename (some platform.seed.coilData)
      else w.tee.store := by
  intro r
  obtain ⟨signed, store⟩ := hostSeedCoil_run delivers w
  obtain ⟨signedAfter, storeAfter⟩ :=
    hostPrintAllCoilData_run delivers (hostSeedCoil.run platform.handler w).2 seed
  simp only [r, Agent.seed, Program.run_bind, Program.run_pure]
  exact ⟨signedAfter.trans signed, storeAfter.trans store⟩

theorem invCtrlSetCoilData_run (transactionId coilAddress : Int32) (coilValue : UInt8)
    (signature : ByteMemory) :
    let r := (invCtrlSetCoilData transactionId coilAddress coilValue signature).run
      platform.handler w
    let accepted := platform.env.crypto.valid (message coilValue (low16 transactionId))
      (signature.slice 0 128) = true
    r.2.tee.signed = w.tee.signed ∧
      ((r.1 = 1 ∧ accepted ∧
        r.2.tee.store =
          if (platform.env.storage (w.tee.storageCalls + 3)).result = teeSuccess then
            Function.update w.tee.store filename (some (platform.env.coilUpdate platform.seed w.tee
              coilAddress.toUInt32 coilValue.toUInt32))
          else w.tee.store) ∨
      (r.1 = -1 ∧ ¬ (platform.env.CryptoSucceeds ∧ accepted) ∧ r.2.tee.store = w.tee.store)) :=
  hostSetCoilData1_run delivers w transactionId coilAddress coilValue signature 128 (by decide)

theorem invCtrlVerifyCoilData_run (transactionId : Int32) (coilValue : UInt8)
    (signature : ByteMemory) :
    let r := (invCtrlVerifyCoilData transactionId coilValue signature 128).run platform.handler w
    let accepted := platform.env.crypto.valid (message coilValue (low16 transactionId))
      (signature.slice 0 128) = true
    r.2.tee.store = w.tee.store ∧ r.2.tee.signed = w.tee.signed ∧
      (r.1.2 = 1 ∧ accepted ∨ r.1.2 = -1 ∧ ¬ (platform.env.CryptoSucceeds ∧ accepted)) := by
  intro r accepted
  obtain ⟨_, store, signed, verdict⟩ :=
    hostVerifyCoilData1_run delivers w transactionId coilValue signature 128 (by decide) 0
  simp only [r, invCtrlVerifyCoilData, Program.run_bind, Program.run_pure]
  exact ⟨store, signed, verdict⟩

/-- A client's signing: the message buffer, the length and the signed message. -/
theorem invCtrlSignCoilValue_run (idHigh idLow valueHigh valueLow : UInt8) (req : ByteMemory)
    (reqLength : Nat) (clientTamper : Int32) :
    let r := (invCtrlSignCoilValue idHigh idLow valueHigh valueLow req reqLength clientTamper).run
      platform.handler w
    let m := message (requestValue valueHigh valueLow) (low16 (requestId idHigh idLow))
    ∃ out, r.1 = (req.overlay reqLength (emitted clientTamper out), reqLength + 128) ∧
      r.2.tee.store = w.tee.store ∧
      ((out = platform.env.crypto.signature m ∧
          r.2.tee.signed = w.tee.signed ++ [(m, platform.env.crypto.signature m)]) ∨
        (¬ platform.env.CryptoSucceeds ∧ out = List.replicate 512 0 ∧
          r.2.tee.signed = w.tee.signed)) := by
  intro r m
  simp only [r, invCtrlSignCoilValue, Program.run_bind, Program.run_pure, requestValue_eq]
  obtain ⟨out, count, copied, store, outcome⟩ := hostSignCoilValue1_run delivers w
    (requestId idHigh idLow) (requestValue valueHigh valueLow) (fun _ => 0) 0
  refine ⟨out, ?_, store, outcome⟩
  rw [requestId] at count copied
  rw [count, copied, ByteMemory.copyLoop_eq_overlay, tampered_slice]

/-- A server's read: the value byte and the signature behind it. -/
theorem invCtrlGetDataByCoilAddress_run (transactionId coilAddress : Int32) (req : ByteMemory)
    (reqLength : Nat) (serverTamper : Int32) :
    let r := (invCtrlGetDataByCoilAddress transactionId coilAddress req reqLength serverTamper).run
      platform.handler w
    let value := platform.env.coilValue platform.seed w.tee coilAddress.toUInt32
    let m := message value (low16 transactionId)
    ∃ out, r.1 = ((req.write reqLength value).overlay (reqLength + 1) (emitted serverTamper out),
        reqLength + 1 + out.length) ∧
      r.2.tee.store = w.tee.store ∧
      ((out = platform.env.crypto.signature m ∧
          r.2.tee.signed = w.tee.signed ++ [(m, platform.env.crypto.signature m)]) ∨
        (¬ platform.env.CryptoSucceeds ∧ out = List.replicate 512 0 ∧
          r.2.tee.signed = w.tee.signed)) := by
  intro r value m
  simp only [r, invCtrlGetDataByCoilAddress, Program.run_bind, Program.run_perform,
    Program.run_pure, Platform.handler]
  obtain ⟨out, reported, count, copied, store, outcome⟩ := hostGetDataByCoilAddress_run delivers
    { w with calls := w.calls + 1 } transactionId coilAddress (platform.residue w.calls 0)
    (fun _ => 0) 0
  refine ⟨out, ?_, store, outcome⟩
  rw [reported, count, copied, ByteMemory.copyLoop_eq_overlay, tampered_slice]

end Agent

end InvCtrl
