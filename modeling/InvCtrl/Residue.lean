import InvCtrl.EndToEnd

/-! What the host functions owe to the bytes behind their output-only references. By the
contract of the client API the application finds a caller's bytes only behind a
reference whose direction includes input. Every reference of the host library is
output-only, so what is found there is arbitrary. -/
namespace InvCtrl
open Interaction

/-- The machine whose application finds these bytes behind the four references. -/
def Platform.showing (platform : Platform) (contents : Fin 4 → ByteMemory) : Platform :=
  { platform with link := { platform.link with sees := fun _ i _ _ => contents i } }

/-- Runs under any two initial contents have one result and leave one store. -/
def ResidueFree (platform : Platform) (w : World) (program : HostProgram α) : Prop :=
  ∀ first second : Fin 4 → ByteMemory,
    let left := program.run (platform.showing first).handler w
    let right := program.run (platform.showing second).handler w
    left.1 = right.1 ∧ left.2.tee.store = right.2.tee.store

/-- Client and TEE calls succeed, and a message has its one signature and no other. -/
structure Platform.Answers (platform : Platform) : Prop where
  completes : ∀ call, platform.outcome call = .completed
  succeeds : platform.env.Succeeds
  exact : ∀ message signature, message.length = 3 →
    (platform.env.crypto.valid message signature = true ↔
      signature = platform.env.crypto.signature message)

/-- Behind reference `j` lies the signature of the three bytes behind reference `i`. -/
def Crypto.Shown (crypto : Crypto) (i j : Fin 4) (size : UInt32) (contents : Fin 4 → ByteMemory) :
    Prop :=
  (contents j).slice 0 size.toNat = crypto.signature ((contents i).slice 0 3)

section Shown
variable {crypto : Crypto} {i j : Fin 4} {size : UInt32}

theorem Crypto.Shown.room {contents : Fin 4 → ByteMemory} (shown : crypto.Shown i j size contents) :
    size.toNat = 128 := by
  have lengths := congrArg List.length shown
  rwa [ByteMemory.slice_length, Crypto.signature_length] at lengths

/-- Three zeros as the data and any bytes as the signature. -/
def zerosWith (j : Fin 4) (signature : List UInt8) : Fin 4 → ByteMemory :=
  Function.update (fun _ => .ofBytes [0, 0, 0]) j (.ofBytes signature)

theorem shown_zerosWith (apart : i ≠ j) (whole : size.toNat = 128) {signature : List UInt8}
    (length : signature.length = 128) :
    crypto.Shown i j size (zerosWith j signature) ↔ signature = crypto.signature [0, 0, 0] := by
  have data : (zerosWith j signature i).slice 0 3 = [0, 0, 0] := by
    rw [zerosWith, Function.update_of_ne apart]
    exact ByteMemory.slice_ofBytes _
  have behind : (zerosWith j signature j).slice 0 size.toNat = signature := by
    rw [zerosWith, Function.update_self, whole, ← length]
    exact ByteMemory.slice_ofBytes _
  rw [Crypto.Shown, data, behind]

theorem shown_alike_iff (apart : i ≠ j) :
    (∀ first second, crypto.Shown i j size first ↔ crypto.Shown i j size second) ↔
      size.toNat ≠ 128 := by
  constructor
  · intro alike whole
    have any (signature : List UInt8) (length : signature.length = 128) :
        signature = crypto.signature [0, 0, 0] := by
      apply (shown_zerosWith apart whole length).mp
      apply (alike (zerosWith j (crypto.signature [0, 0, 0])) _).mp
      exact (shown_zerosWith apart whole (crypto.signature_length _)).mpr rfl
    have zeros := any (List.replicate 128 0) List.length_replicate
    have ones := any (List.replicate 128 1) List.length_replicate
    have same := List.replicate_right_injective (by decide) (zeros.trans ones.symm)
    exact absurd same (by decide)
  · intro short first second
    exact ⟨fun shown => absurd shown.room short, fun shown => absurd shown.room short⟩

end Shown

section Runs
variable {platform : Platform} {program : HostProgram α}

theorem residueFree_of_constant {w : World} {result : α} {store : List UInt8 → Option (List UInt8)}
    (constant : ∀ contents,
      let r := program.run (platform.showing contents).handler w
      r.1 = result ∧ r.2.tee.store = store) : ResidueFree platform w program := by
  intro first second
  obtain ⟨left, leftStore⟩ := constant first
  obtain ⟨right, rightStore⟩ := constant second
  exact ⟨left.trans right.symm, leftStore.trans rightStore.symm⟩

theorem residueFree_iff (w : World) {yes no : α} (apart : yes ≠ no) {i j : Fin 4}
    (references : i ≠ j) {size : UInt32}
    (decided : ∀ contents,
      let r := program.run (platform.showing contents).handler w
      let shown := platform.env.crypto.Shown i j size contents
      r.1 = yes ∧ shown ∨ r.1 = no ∧ ¬ shown ∧ r.2.tee.store = w.tee.store) :
    ResidueFree platform w program ↔ size.toNat ≠ 128 := by
  have yes_iff (contents : Fin 4 → ByteMemory) :
      (program.run (platform.showing contents).handler w).1 = yes ↔
        platform.env.crypto.Shown i j size contents := by
    rcases decided contents with ⟨one, shown⟩ | ⟨other, hidden, _⟩
    · exact ⟨fun _ => shown, fun _ => one⟩
    · rw [other]
      exact ⟨fun same => absurd same.symm apart, fun shown => absurd shown hidden⟩
  constructor
  · intro free
    apply (shown_alike_iff references).mp
    intro first second
    rw [← yes_iff, ← yes_iff, (free first second).1]
  · intro short
    apply residueFree_of_constant
    intro contents
    rcases decided contents with ⟨_, shown⟩ | ⟨other, _, store⟩
    · exact absurd shown.room short
    · exact ⟨other, store⟩

variable (answers : platform.Answers) (w : World)
include answers

theorem Platform.Answers.complete (contents : Fin 4 → ByteMemory) (call : Nat) :
    (platform.showing contents).Completes call :=
  (TeecOutcome.code_success_iff _).mpr (answers.completes call)

theorem Platform.Answers.opens (contents : Fin 4 → ByteMemory) (call : Nat) :
    (platform.showing contents).Opens call :=
  (Platform.opens_iff _ call).mpr ⟨answers.complete _ _, answers.complete _ _⟩

theorem accepted_iff_shown (contents : Fin 4 → ByteMemory) (call : Nat) (i j : Fin 4)
    (size : UInt32) :
    (platform.env.VerifyWorks call ∧ platform.env.crypto.valid ((contents i).slice 0 3)
        ((contents j).slice 0 size.toNat) = true) ↔
      platform.env.crypto.Shown i j size contents := by
  rw [answers.exact _ _ (ByteMemory.slice_length _ 0 3)]
  exact and_iff_right (answers.succeeds.crypto.verifyWorks call)

theorem set_shown (transactionId coilAddress : Int32) (coilValue : UInt8) (signature : ByteMemory)
    (signatureLen : Int32) (contents : Fin 4 → ByteMemory) :
    let r := (hostSetCoilData1 transactionId coilAddress coilValue signature signatureLen).run
      (platform.showing contents).handler w
    let shown := platform.env.crypto.Shown 1 2 signatureLen.toUInt32 contents
    r.1 = 1 ∧ shown ∨ r.1 = -1 ∧ ¬ shown ∧ r.2.tee.store = w.tee.store := by
  intro r shown
  have condition := accepted_iff_shown answers contents w.tee.cryptoCalls 1 2 signatureLen.toUInt32
  obtain ⟨_, ⟨one, accepted, _⟩ | ⟨other, refused, store⟩⟩ := hostSetCoilData1_received
    (answers.opens contents w.calls) (answers.complete contents (w.calls + 3)) transactionId
    coilAddress coilValue signature signatureLen
  · exact .inl ⟨one, condition.mp accepted⟩
  · exact .inr ⟨other, fun shown => refused (condition.mpr shown), store⟩

theorem verify_shown (transactionId : Int32) (coilValue : UInt8) (signature : ByteMemory)
    (signatureLen signatureVerified : Int32) (contents : Fin 4 → ByteMemory) :
    let r := (hostVerifyCoilData1 transactionId coilValue signature signatureLen
      signatureVerified).run (platform.showing contents).handler w
    let shown := platform.env.crypto.Shown 0 1 signatureLen.toUInt32 contents
    r.1.1 = 0 ∧ r.1.2.1 = signature.overlay 0 ((contents 1).slice 0 signatureLen.toUInt32.toNat) ∧
      r.2.tee.store = w.tee.store ∧ (r.1.2.2 = 1 ∧ shown ∨ r.1.2.2 = -1 ∧ ¬ shown) := by
  intro r shown
  have condition := accepted_iff_shown answers contents w.tee.cryptoCalls 0 1 signatureLen.toUInt32
  obtain ⟨code, back, store, _, verdict⟩ := hostVerifyCoilData1_received
    (answers.opens contents w.calls) (answers.complete contents (w.calls + 2)) transactionId
    coilValue signature signatureLen signatureVerified
  refine ⟨code, back, store, ?_⟩
  rcases verdict with ⟨one, accepted⟩ | ⟨other, refused⟩
  · exact .inl ⟨one, condition.mp accepted⟩
  · exact .inr ⟨other, fun shown => refused (condition.mpr shown)⟩

theorem sign_shown (transactionId : Int32) (coilValue : UInt8) (signature : ByteMemory)
    (signatureLen : Int32) (contents : Fin 4 → ByteMemory) :
    let r := (hostSignCoilValue1 transactionId coilValue signature signatureLen).run
      (platform.showing contents).handler w
    r.1 = (0, signature.overlay 0 (platform.env.crypto.signature ((contents 0).slice 0 3)), 128) ∧
      r.2.tee.store = w.tee.store := by
  intro r
  obtain ⟨out, code, count, copied, store, ⟨_, rfl, _⟩ | ⟨fails, _⟩⟩ := hostSignCoilValue1_received
    (answers.opens contents w.calls) (answers.complete contents (w.calls + 3)) transactionId
    coilValue signature signatureLen
  · have length : r.1.2.2 = 128 := by
      have whole : r.1.2.2.toInt.toNat = 128 := count.trans (Crypto.signature_length _ _)
      apply Int32.toInt_inj.mp
      have bytes : (128 : Int32).toInt = 128 := by decide
      omega
    exact ⟨Prod.ext code (Prod.ext copied length), store⟩
  · exact absurd (answers.succeeds.crypto.signWorks _) fails

end Runs

theorem toNat_toUInt32_inj (left right : Int32) :
    left.toUInt32.toNat = right.toUInt32.toNat ↔ left = right := by
  constructor
  · intro same
    apply Int32.toBitVec_inj.mp
    exact BitVec.eq_of_toNat_eq same
  · rintro rfl
    rfl

section Functions
variable {platform : Platform} (answers : platform.Answers) (w : World)
include answers

theorem set_residueFree_iff (transactionId coilAddress : Int32) (coilValue : UInt8)
    (signature : ByteMemory) (signatureLen : Int32) :
    ResidueFree platform w
        (hostSetCoilData1 transactionId coilAddress coilValue signature signatureLen) ↔
      signatureLen ≠ 128 := by
  have decided := set_shown answers w transactionId coilAddress coilValue signature signatureLen
  exact (residueFree_iff w refusal_apart.symm (by decide) decided).trans
    (not_congr (toNat_toUInt32_inj signatureLen 128))

theorem verdict_residueFree_iff (transactionId : Int32) (coilValue : UInt8)
    (signature : ByteMemory) (signatureLen signatureVerified : Int32) :
    ResidueFree platform w ((fun r => (r.1, r.2.2)) <$>
        hostVerifyCoilData1 transactionId coilValue signature signatureLen signatureVerified) ↔
      signatureLen ≠ 128 := by
  have apart : ((0, 1) : Int32 × Int32) ≠ (0, -1) := fun same =>
    refusal_apart (congrArg Prod.snd same).symm
  refine (residueFree_iff w apart (i := 0) (j := 1) (by decide) fun contents => ?_).trans
    (not_congr (toNat_toUInt32_inj signatureLen 128))
  obtain ⟨code, _, store, verdict⟩ := verify_shown answers w transactionId coilValue signature
    signatureLen signatureVerified contents
  simp only [Program.run_map]
  rcases verdict with ⟨one, shown⟩ | ⟨other, hidden⟩
  · exact .inl ⟨Prod.ext code one, shown⟩
  · exact .inr ⟨Prod.ext code other, hidden, store⟩

/-- With the caller's buffer, which comes back holding what was found behind it. -/
theorem verify_residueFree_iff (transactionId : Int32) (coilValue : UInt8)
    (signature : ByteMemory) (signatureLen signatureVerified : Int32) :
    ResidueFree platform w
        (hostVerifyCoilData1 transactionId coilValue signature signatureLen signatureVerified) ↔
      signatureLen = 0 := by
  have result := verify_shown answers w transactionId coilValue signature signatureLen
    signatureVerified
  have size : signatureLen.toUInt32.toNat = 0 ↔ signatureLen = 0 := toNat_toUInt32_inj _ 0
  rw [← size]
  constructor
  · intro free
    obtain ⟨same, _⟩ := free (fun _ _ => 0) (fun _ _ => 1)
    have buffers := congrArg (·.2.1) same
    simp only [(result _).2.1] at buffers
    have bytes := ByteMemory.overlay_inj (by rw [ByteMemory.slice_length, ByteMemory.slice_length])
      buffers
    simpa [ByteMemory.slice] using bytes
  · intro none
    apply @residueFree_of_constant _ _ _ w (0, signature, -1) w.tee.store
    intro contents
    obtain ⟨code, back, store, ⟨_, shown⟩ | ⟨other, _⟩⟩ := result contents
    · have room := shown.room
      omega
    · rw [none] at back
      exact ⟨Prod.ext code (Prod.ext (back.trans (ByteMemory.overlay_nil _ 0)) other), store⟩

/-- Only a scheme that signs all messages alike hides what was found. -/
theorem sign_residueFree_iff (transactionId : Int32) (coilValue : UInt8) (signature : ByteMemory)
    (signatureLen : Int32) :
    ResidueFree platform w (hostSignCoilValue1 transactionId coilValue signature signatureLen) ↔
      ∀ left right : List UInt8, left.length = 3 → right.length = 3 →
        platform.env.crypto.signature left = platform.env.crypto.signature right := by
  have result := sign_shown answers w transactionId coilValue signature signatureLen
  constructor
  · intro free left right leftWhole rightWhole
    obtain ⟨same, _⟩ := free (fun _ => .ofBytes left) (fun _ => .ofBytes right)
    have found (bytes : List UInt8) (whole : bytes.length = 3) :
        (ByteMemory.ofBytes bytes).slice 0 3 = bytes := by
      rw [← whole, ByteMemory.slice_ofBytes]
    have buffers := congrArg (·.2.1) same
    simp only [(result _).1, found left leftWhole, found right rightWhole] at buffers
    apply ByteMemory.overlay_inj _ buffers
    rw [Crypto.signature_length, Crypto.signature_length]
  · intro alike first second
    refine ⟨?_, (result first).2.trans (result second).2.symm⟩
    rw [(result first).1, (result second).1,
      alike _ _ (ByteMemory.slice_length _ 0 3) (ByteMemory.slice_length _ 0 3)]

end Functions

theorem Platform.reference_answers : Platform.reference.Answers where
  completes := reference_works.delivers.completes
  succeeds := reference_succeeds
  exact := reference_ideal.exact

/-- When a host function is a function of its arguments and the store alone: a set and
the verdict of a verification unless there is room for a signature behind the
reference, the buffer that a verification hands back if it has no bytes, and a signing
if the scheme does not depend on what it signs. -/
theorem residue_free_iff {platform : Platform} (answers : platform.Answers) (w : World)
    (transactionId coilAddress : Int32) (coilValue : UInt8) (signature : ByteMemory)
    (signatureLen signatureVerified : Int32) :
    (ResidueFree platform w
        (hostSetCoilData1 transactionId coilAddress coilValue signature signatureLen) ↔
      signatureLen ≠ 128) ∧
    (ResidueFree platform w ((fun r => (r.1, r.2.2)) <$>
        hostVerifyCoilData1 transactionId coilValue signature signatureLen signatureVerified) ↔
      signatureLen ≠ 128) ∧
    (ResidueFree platform w
        (hostVerifyCoilData1 transactionId coilValue signature signatureLen signatureVerified) ↔
      signatureLen = 0) ∧
    (ResidueFree platform w (hostSignCoilValue1 transactionId coilValue signature signatureLen) ↔
      ∀ left right : List UInt8, left.length = 3 → right.length = 3 →
        platform.env.crypto.signature left = platform.env.crypto.signature right) := by
  refine ⟨?_, ?_, ?_, ?_⟩
  · exact set_residueFree_iff answers w transactionId coilAddress coilValue signature signatureLen
  · exact verdict_residueFree_iff answers w transactionId coilValue signature signatureLen
      signatureVerified
  · exact verify_residueFree_iff answers w transactionId coilValue signature signatureLen
      signatureVerified
  · exact sign_residueFree_iff answers w transactionId coilValue signature signatureLen

/-- With 64 bytes for a signature a set is refused whatever is found; a verification
hands back what was found. -/
theorem residue_free_short :
    ResidueFree .reference (.holding [0x00]) (hostSetCoilData1 7 0x13 1 (fun _ => 0) 64) ∧
      ¬ ResidueFree .reference (.holding [0x00]) (hostVerifyCoilData1 7 1 (fun _ => 0) 64 0) := by
  obtain ⟨set, _, verify, _⟩ := residue_free_iff Platform.reference_answers (.holding [0x00]) 7
    0x13 1 (fun _ => 0) 64 0
  exact ⟨set.mpr (by decide), fun free => absurd (verify.mp free) (by decide)⟩

/-- A correctly signed set is accepted where its own bytes are found and refused where
zeros are; its verification and a signing depend on the residue as well. -/
theorem residue_decides :
    let data := ByteMemory.ofBytes (message 1 7)
    let signature := ByteMemory.ofBytes (Crypto.reference.signature (message 1 7))
    let set (contents : Fin 4 → ByteMemory) :=
      (hostSetCoilData1 7 0x13 1 signature 128).run (Platform.reference.showing contents).handler
        (.holding [0x00])
    (set fun i => if i = 2 then signature else data).1 = 1 ∧ (set fun _ _ => 0).1 = -1 ∧
      ¬ ResidueFree .reference (.holding [0x00]) (hostSetCoilData1 7 0x13 1 signature 128) ∧
      ¬ ResidueFree .reference (.holding [0x00]) (hostVerifyCoilData1 7 1 signature 128 0) ∧
      ¬ ResidueFree .reference (.holding [0x00]) (hostSignCoilValue1 7 1 (fun _ => 0) 0) := by
  intro data signature set
  have verdict := set_shown Platform.reference_answers (.holding [0x00]) 7 0x13 1 signature 128
  have carried : Crypto.reference.Shown 1 2 128 fun i => if i = 2 then signature else data := by
    have bytes : data.slice 0 3 = message 1 7 := ByteMemory.slice_ofBytes _
    have presented : signature.slice 0 128 = Crypto.reference.signature (message 1 7) :=
      ByteMemory.slice_ofBytes _
    exact presented.trans (congrArg _ bytes.symm)
  have zeros : ¬ Crypto.reference.Shown 1 2 128 fun _ _ => 0 := by
    intro shown
    exact absurd (congrArg (·[1]?) shown) (by decide)
  refine ⟨?_, ?_, fun free => ?_, fun free => ?_, fun free => ?_⟩
  · exact (verdict _).elim And.left fun refused => absurd carried refused.2.1
  · exact (verdict _).elim (fun accepted => absurd accepted.2 zeros) And.left
  · exact (set_residueFree_iff Platform.reference_answers _ _ _ _ _ 128).mp free rfl
  · have empty := (verify_residueFree_iff Platform.reference_answers _ _ _ _ _ _).mp free
    exact absurd empty (by decide)
  · have alike := (sign_residueFree_iff Platform.reference_answers _ _ _ _ _).mp free
    exact absurd (alike [0, 0, 0] [0, 0, 1] rfl rfl) (by decide)

end InvCtrl
