import InvCtrl.Commands
import InvCtrl.Execution

/-! The coil object over whole histories. When no call fails, the stored bytes are
always the seed with bit 0 replaced, and that bit moves as one register: a seed
resets it, an accepted set to its address overwrites it, nothing else touches it. -/
namespace InvCtrl
open Execution

structure Environment.Succeeds (env : Environment) : Prop where
  storage : env.StorageSucceeds
  crypto : env.CryptoSucceeds

theorem Environment.StorageSucceeds.result {env : Environment} (storage : env.StorageSucceeds)
    (call : Nat) : (env.storage call).result = teeSuccess := by
  rw [storage]
  rfl

theorem reference_succeeds : Environment.reference.Succeeds := ⟨fun _ => rfl, fun _ => rfl⟩

/-- The application under a normal world that may invoke anything at any time. -/
def application (env : Environment) (seed : Seed) : Machine Tee Invocation (TeeResult × TeeParams) where
  step s request := env.invoke seed request s
  admissible _ _ := True

section Image
variable (seed : Seed)

/-- The seed with its bit 0 replaced. -/
def Seed.image (coil : Bool) : List UInt8 := PackedBits.set seed.coilData 0 coil

@[simp] theorem image_length (coil : Bool) : (seed.image coil).length = seed.coilData.length :=
  PackedBits.set_length _ _ _

theorem image_bit (coil : Bool) : PackedBits.get (seed.image coil) 0 = coil := by
  have inside := List.length_pos_iff.mpr seed.nonempty
  exact PackedBits.get_set_same _ _ _ (by omega)

theorem image_other (coil : Bool) (i : Nat) (other : i ≠ 0) :
    PackedBits.get (seed.image coil) i = PackedBits.get seed.coilData i :=
  PackedBits.get_set_other _ _ _ _ other

theorem set_image (old coil : Bool) : PackedBits.set (seed.image old) 0 coil = seed.image coil :=
  PackedBits.set_set _ _ _ _

theorem image_seed : seed.image (PackedBits.get seed.coilData 0) = seed.coilData :=
  PackedBits.set_get _ _

end Image

section Reading
variable {env : Environment} {seed : Seed} {s : Tee} {bytes : List UInt8}

theorem coilRead_complete (storage : env.StorageSucceeds) (stored : s.store filename = some bytes)
    (size : Nat) (length : bytes.length = size) : env.coilRead s size = bytes := by
  rw [Environment.coilRead, if_pos (storage.result _), storage, stored]
  exact List.take_of_length_le (Nat.le_of_eq length)

/-- What a command copies out of the object: as many bytes as the seed has, zeros where
the object has none. -/
def Seed.copied (seed : Seed) (stored : Option (List UInt8)) : List UInt8 :=
  let data := (stored.getD []).take seed.coilData.length
  data ++ (List.replicate seed.coilData.length 0x00).drop data.length

section Copied
variable (seed)

theorem copied_length (stored : Option (List UInt8)) :
    (seed.copied stored).length = seed.coilData.length := by
  simp only [Seed.copied, List.length_append, List.length_take, List.length_drop,
    List.length_replicate]
  omega

theorem copied_whole (length : bytes.length = seed.coilData.length) :
    seed.copied (some bytes) = bytes := by
  simp [Seed.copied, ← length]

theorem copied_coil (stored : Option (List UInt8)) :
    PackedBits.get (seed.copied stored) 0 = PackedBits.get (stored.getD []) 0 := by
  have nonempty := List.length_pos_iff.mpr seed.nonempty
  have first : 0 < 8 * seed.coilData.length := by omega
  rw [Seed.copied, List.drop_replicate, PackedBits.get_take_append_zeros, decide_eq_true first,
    Bool.true_and]

end Copied

theorem coilCopy_copied (storage : env.StorageSucceeds) :
    env.coilCopy seed s = seed.copied (s.store filename) := by
  have read : env.coilRead s seed.coilData.length =
      ((s.store filename).getD []).take seed.coilData.length := by
    rw [Environment.coilRead, if_pos (storage.result _), storage]
    rfl
  rw [Environment.coilCopy, read, Seed.copied]

theorem coilCopy_complete (storage : env.StorageSucceeds) (stored : s.store filename = some bytes)
    (length : bytes.length = seed.coilData.length) : env.coilCopy seed s = bytes := by
  rw [coilCopy_copied storage, stored, copied_whole seed length]

/-- The stored coil; an absent object reads as zeros. -/
def Tee.coil (s : Tee) : Bool := PackedBits.get ((s.store filename).getD []) 0

theorem coilCopy_coil (storage : env.StorageSucceeds) :
    PackedBits.get (env.coilCopy seed s) 0 = s.coil := by
  rw [coilCopy_copied storage, copied_coil, Tee.coil]

theorem coilValue_coil (storage : env.StorageSucceeds) (coilAddress : UInt32) :
    env.coilValue seed s coilAddress =
      if coilAddress.toInt32 = coilAddressInverterStatus ∧ s.coil then 1 else 0 := by
  rw [Environment.coilValue, taGetCoilValue_address, coilCopy_coil storage]

theorem coilValue_complete (storage : env.StorageSucceeds) (stored : s.store filename = some bytes)
    (coilAddress : UInt32) :
    env.coilValue seed s coilAddress =
      if coilAddress.toInt32 = coilAddressInverterStatus ∧ PackedBits.get bytes 0 then 1 else 0 := by
  rw [coilValue_coil storage, Tee.coil, stored, Option.getD_some]

theorem coilUpdate_complete (storage : env.StorageSucceeds)
    (stored : s.store filename = some bytes) (length : bytes.length = seed.coilData.length)
    (coilAddress value : UInt32) :
    env.coilUpdate seed s coilAddress value =
      if coilAddress.toInt32 = coilAddressInverterStatus then
        PackedBits.set bytes 0 (value.toUInt8 ≠ 0)
      else bytes := by
  rw [Environment.coilUpdate, coilCopy_complete storage stored length, taUpdateCoilData_address]
  refine List.take_of_length_le (Nat.le_of_eq ?_)
  split <;> simp [length]

end Reading

/-- How one recorded command moves the register. -/
def Register.move (seed : Seed) (coil : Bool) (event : Invocation × (TeeResult × TeeParams)) : Bool :=
  if event.1.nCommandID = CommandId.seedCoil then PackedBits.get seed.coilData 0
  else if Accepted event ∧ event.1.pParams.p0.a.toInt32 = coilAddressInverterStatus then
    event.1.pParams.p0.b.toUInt8 ≠ 0
  else coil

/-- The register after a history that starts with a seed. -/
def register (seed : Seed) (history : History Invocation (TeeResult × TeeParams)) : Bool :=
  history.foldl (Register.move seed) (PackedBits.get seed.coilData 0)

section Steps
variable {env : Environment} {seed : Seed} {s : Tee}

theorem invoke_seedCoil (storage : env.StorageSucceeds) (request : Invocation)
    (seeding : request.nCommandID = CommandId.seedCoil) :
    (env.invoke seed request s).2.store filename = some seed.coilData := by
  rcases (invoke_effect env seed request s).store with
    ⟨_, store⟩ | ⟨accepted, _⟩ | ⟨other, _⟩
  · rw [store, if_pos (storage.result _), Function.update_self]
  · exact absurd (seeding.symm.trans accepted.1) (by decide)
  · exact absurd seeding other

/-- One command moves the stored bytes and the register together. -/
theorem invoke_register (storage : env.StorageSucceeds) (coil : Bool) (request : Invocation)
    (stored : s.store filename = some (seed.image coil)) :
    (env.invoke seed request s).2.store filename =
      some (seed.image (Register.move seed coil (request, (env.invoke seed request s).1))) := by
  rcases (invoke_effect env seed request s).store with
    ⟨seeding, _⟩ | ⟨accepted, _, store⟩ | ⟨other, refused, store⟩
  · rw [invoke_seedCoil storage request seeding, Register.move, if_pos seeding, image_seed]
  · have other : request.nCommandID ≠ CommandId.seedCoil := by
      intro seeding
      exact absurd (seeding.symm.trans accepted.1) (by decide)
    rw [store, if_pos (storage.result _), Function.update_self, Register.move, if_neg other,
      coilUpdate_complete storage stored (image_length seed coil)]
    by_cases mapped : request.pParams.p0.a.toInt32 = coilAddressInverterStatus
    · rw [if_pos mapped, if_pos ⟨accepted, mapped⟩, set_image]
    · rw [if_neg mapped, if_neg fun both => mapped both.2]
  · rw [store, Register.move, if_neg other, if_neg fun both => refused both.1, stored]

variable (seed) in
/-- A read of the mapped address when no call fails: the value, its signature on the
value and the low 16 bits of the id, and the signed message. -/
theorem invoke_getData (succeeds : env.Succeeds) (request : Invocation) {bytes : List UInt8}
    (stored : s.store filename = some bytes)
    (getting : request.nCommandID = CommandId.getDataByCoilAddress) :
    let r := env.invoke seed request s
    let value : UInt8 :=
      if request.pParams.p0.b.toInt32 = coilAddressInverterStatus ∧ PackedBits.get bytes 0 then 1
      else 0
    let message := [value, (request.pParams.p0.a >>> 8).toUInt8,
      (request.pParams.p0.a &&& 0x00ff).toUInt8]
    r.1.2.p2.a = value.toUInt32 ∧ r.1.2.p1.b = 128 ∧
      (r.2.memory request.pParams.p1.buffer).slice 0 128 = env.crypto.signature message ∧
      r.2.signed = s.signed ++ [(message, env.crypto.signature message)] := by
  intro r value message
  obtain ⟨reported, result⟩ := (invoke_effect env seed request s).getData getting
  rw [coilValue_complete succeeds.storage stored] at reported result
  obtain ⟨len, signed, memory⟩ := result.complete succeeds.crypto
  refine ⟨reported, len, ?_, signed⟩
  rw [memory, Function.update_self]
  have stored := ByteMemory.slice_overlay
    (((request.supply s).advance 3).memory request.pParams.p1.buffer) 0 (env.crypto.signature message)
  rwa [env.crypto.signature_length] at stored

variable (seed) in
theorem invoke_setData (succeeds : env.Succeeds) (request : Invocation) {bytes : List UInt8}
    (stored : s.store filename = some bytes) (length : bytes.length = seed.coilData.length)
    (setting : request.nCommandID = CommandId.setDataByCoilAddress)
    (valid : env.crypto.valid (request.bytes request.pParams.p1)
      (request.bytes request.pParams.p2) = true) :
    (env.invoke seed request s).1.2.p3.a = 1 ∧
      (env.invoke seed request s).2.store filename =
        some (if request.pParams.p0.a.toInt32 = coilAddressInverterStatus then
          PackedBits.set bytes 0 (request.pParams.p0.b.toUInt8 ≠ 0) else bytes) := by
  obtain ⟨_, verdict, store⟩ :=
    (invoke_effect env seed request s).setAccepts setting succeeds.crypto valid
  refine ⟨verdict, ?_⟩
  rw [store, if_pos (succeeds.storage.result _), Function.update_self,
    coilUpdate_complete succeeds.storage stored length]

end Steps

section Histories
variable (env : Environment) (seed : Seed)

/-- After a first seed the stored bytes are the image of the register. -/
theorem run_register (storage : env.StorageSucceeds) (start t : Tee)
    (history : History Invocation (TeeResult × TeeParams)) (request : Invocation)
    (output : TeeResult × TeeParams) (seeding : request.nCommandID = CommandId.seedCoil)
    (run : Run (application env seed) start ((request, output) :: history) t) :
    t.store filename = some (seed.image (register seed ((request, output) :: history))) := by
  have whole : Run (application env seed) start ([] ++ (request, output) :: history) t := run
  obtain ⟨s, first, _, _, rest⟩ := whole.split_at
  have seeded : ((application env seed).step s request).2.store filename =
      some (seed.image (PackedBits.get seed.coilData 0)) := by
    rw [image_seed]
    exact invoke_seedCoil storage request seeding
  have moved := rest.refines (fun s coil => s.store filename = some (seed.image coil))
    (Register.move seed) _ seeded fun s coil request stored _ =>
      invoke_register storage coil request stored
  have reset : Register.move seed (PackedBits.get seed.coilData 0) (request, output) =
      PackedBits.get seed.coilData 0 := if_pos seeding
  rwa [register, List.foldl_cons, reset]

theorem coil_refines_register (succeeds : env.Succeeds) (start t : Tee)
    (history : History Invocation (TeeResult × TeeParams)) (request : Invocation)
    (output : TeeResult × TeeParams) (seeding : request.nCommandID = CommandId.seedCoil)
    (run : Run (application env seed) start ((request, output) :: history) t) :
    let coil := register seed ((request, output) :: history)
    (∃ bytes, t.store filename = some bytes ∧ bytes.length = seed.coilData.length ∧
      env.coilRead t seed.coilData.length = bytes ∧ PackedBits.get bytes 0 = coil ∧
      ∀ i, i ≠ 0 → PackedBits.get bytes i = PackedBits.get seed.coilData i) ∧
    ∀ next : Invocation, let r := env.invoke seed next t
      (next.nCommandID ≠ CommandId.seedCoil → ¬ Accepted (next, r.1) → r.2.store = t.store) ∧
      (next.nCommandID = CommandId.getDataByCoilAddress →
        next.pParams.p0.b.toInt32 = coilAddressInverterStatus →
        let value : UInt8 := if coil then 1 else 0
        let message := [value, (next.pParams.p0.a >>> 8).toUInt8,
          (next.pParams.p0.a &&& 0x00ff).toUInt8]
        r.1.2.p2.a = value.toUInt32 ∧ r.1.2.p1.b = 128 ∧
          (r.2.memory next.pParams.p1.buffer).slice 0 128 = env.crypto.signature message ∧
          r.2.signed = t.signed ++ [(message, env.crypto.signature message)]) := by
  intro coil
  have stored := run_register env seed succeeds.storage start t history request output seeding run
  have complete := coilRead_complete succeeds.storage stored _ (image_length seed _)
  constructor
  · exact ⟨_, stored, image_length seed _, complete, image_bit seed _, image_other seed _⟩
  · intro next r
    constructor
    · intro other refused
      rcases (invoke_effect env seed next t).store with ⟨seeds, _⟩ | ⟨accepted, _⟩ | ⟨_, _, store⟩
      · exact absurd seeds other
      · exact absurd accepted refused
      · exact store
    · intro getting mapped
      have result := invoke_getData seed succeeds next stored getting
      simpa only [mapped, image_bit, true_and] using result

/-- After a seed, an accepted set of the coil to on and one of another address to off, the
coil is on, and a read says so and signs it. -/
theorem coil_refines_register_shipped :
    let M := application .reference .shipped
    let set (data : List UInt8) := Invocation.setCoil data (Crypto.reference.signature data)
    let requests := [.plain CommandId.seedCoil, set [1, 0, 7] 0x13 1, set [0, 0, 8] 0x14 0]
    let t := M.reached Tee.fresh requests
    let r := Environment.reference.invoke .shipped (.getCoil 9 0x13) t
    (∃ bytes, t.store filename = some bytes ∧ bytes.length = 1 ∧
        PackedBits.get bytes 0 = true) ∧
      r.2.store = t.store ∧ r.1.2.p2.a = 1 ∧
      r.2.signed = t.signed ++ [([1, 0, 9], Crypto.reference.signature [1, 0, 9])] := by
  intro M set requests t r
  have run : Run M Tee.fresh (M.recorded Tee.fresh requests) t :=
    Run.recorded Tee.fresh requests ⟨trivial, trivial, trivial, trivial⟩
  let seeded := (M.step Tee.fresh (.plain CommandId.seedCoil)).2
  have accepts : (M.step seeded (set [1, 0, 7] 0x13 1)).1.2.p3.a = 1 :=
    ((invoke_effect .reference .shipped _ seeded).setAccepts (setCoil_command ..)
      reference_succeeds.crypto (setCoil_valid _ _ _ _ _ rfl rfl rfl)).2.1
  have on : register .shipped (M.recorded Tee.fresh requests) = true := by
    have other : CommandId.setDataByCoilAddress ≠ CommandId.seedCoil := by decide
    have unmapped : (0x14 : UInt32).toInt32 ≠ coilAddressInverterStatus := by decide
    have turned (coil : Bool) : Register.move .shipped coil (set [1, 0, 7] 0x13 1,
        (M.step seeded (set [1, 0, 7] 0x13 1)).1) = true :=
      (if_neg other).trans (if_pos ⟨⟨setCoil_command .., accepts⟩, rfl⟩)
    have kept (coil : Bool) (output : TeeResult × TeeParams) :
        Register.move .shipped coil (set [0, 0, 8] 0x14 0, output) = coil :=
      (if_neg other).trans (if_neg fun both => unmapped both.2)
    exact (kept _ _).trans (turned _)
  obtain ⟨⟨bytes, stored, length, _, bit, _⟩, next⟩ := coil_refines_register .reference .shipped
    reference_succeeds Tee.fresh t _ _ _ rfl run
  obtain ⟨quiet, reads⟩ := next (.getCoil 9 0x13)
  have getting := getCoil_command 9 0x13
  have unaccepted : ¬ Accepted (.getCoil 9 0x13, r.1) := fun accepted =>
    command_apart getting accepted.1 (by decide)
  obtain ⟨value, _, _, signed⟩ := reads getting rfl
  rw [show register .shipped (_ :: _) = true from on] at bit value signed
  refine ⟨⟨bytes, stored, length, bit⟩, ?_, value, signed⟩
  exact quiet (fun seeding => command_apart getting seeding (by decide)) unaccepted

end Histories

end InvCtrl
