import InvCtrl.Register

/-! A set is a read, an update of the copy and an overwrite, none of which checks the
one before. This module says what that leaves in the store under every pattern of
storage outcomes, and when the result is the update that was asked for. -/
namespace InvCtrl

section Copy
variable (env : Environment) (seed : Seed) (s : Tee)

/-- How many bytes of the object reach the copy: none after a failed open or read. -/
def Environment.deliveredCount (length : Nat) : Nat :=
  if (env.storage s.storageCalls).result = teeSuccess then
    match env.storage (s.storageCalls + 1) with
    | .ok => min seed.coilData.length length
    | .short count => min count (min seed.coilData.length length)
    | .error _ _ => 0
  else 0

theorem coilRead_eq_take :
    env.coilRead s seed.coilData.length = ((s.store filename).getD []).take
      (env.deliveredCount seed s ((s.store filename).getD []).length) := by
  unfold Environment.coilRead Environment.deliveredCount
  split
  · generalize (s.store filename).getD [] = old
    cases env.storage (s.storageCalls + 1) with
    | ok => exact List.take_eq_take_min
    | short count =>
      change (old.take seed.coilData.length).take count = _
      rw [List.take_take, List.take_eq_take_min, Nat.min_assoc]
    | error => rfl
  · rfl

theorem deliveredCount_le (length : Nat) :
    env.deliveredCount seed s length ≤ seed.coilData.length ∧
      env.deliveredCount seed s length ≤ length := by
  unfold Environment.deliveredCount
  split
  · split <;> omega
  · omega

theorem coilCopy_bits (i : Nat) :
    PackedBits.get (env.coilCopy seed s) i =
      (decide (i < 8 * env.deliveredCount seed s ((s.store filename).getD []).length) &&
        PackedBits.get ((s.store filename).getD []) i) := by
  obtain ⟨_, present⟩ := deliveredCount_le env seed s ((s.store filename).getD []).length
  rw [Environment.coilCopy, coilRead_eq_take env seed s, List.drop_replicate,
    PackedBits.get_take_append_zeros]

theorem coilCopy_set (set : PackedBits.get (env.coilCopy seed s) 0 = true) : s.coil = true := by
  rw [coilCopy_bits] at set
  exact (Bool.and_eq_true_iff.mp set).2

end Copy

/-- What a set may leave behind if it is atomic and reports honestly: the old bytes
with the requested bit and the verdict 1, or the old bytes and a visible failure. -/
def AtomicSet (old : List UInt8) (requested : Bool) (stored : Option (List UInt8))
    (res : TeeResult) (verdict : UInt32) : Prop :=
  (∃ new, stored = some new ∧ new.length = old.length ∧ PackedBits.get new 0 = requested ∧
    (∀ i, i ≠ 0 → PackedBits.get new i = PackedBits.get old i) ∧ verdict = 1) ∨
  stored = some old ∧ (res ≠ teeSuccess ∨ verdict ≠ 1)

section Atomicity
variable (env : Environment) (seed : Seed) (s : Tee) (request : Invocation)

theorem atomicSet_reported (old new : List UInt8) (requested : Bool) :
    AtomicSet old requested (some new) teeSuccess 1 ↔
      new.length = old.length ∧ PackedBits.get new 0 = requested ∧
        ∀ i, i ≠ 0 → PackedBits.get new i = PackedBits.get old i := by
  constructor
  · rintro (⟨bytes, same, length, bit, others, _⟩ | ⟨_, visible⟩)
    · cases same
      exact ⟨length, bit, others⟩
    · exact absurd rfl (visible.resolve_right fun differs => differs rfl)
  · rintro ⟨length, bit, others⟩
    exact .inl ⟨new, rfl, length, bit, others, rfl⟩

/-- The bytes a verified set of the mapped address leaves: the updated copy after a
successful create, the old bytes otherwise. -/
def Environment.setResult (old : List UInt8) (requested : Bool) : List UInt8 :=
  if (env.storage (s.storageCalls + 3)).result = teeSuccess then
    PackedBits.set (env.coilCopy seed s) 0 requested
  else old

theorem set_atomic_result (old : List UInt8) (requested : Bool)
    (stored : s.store filename = some old)
    (command : request.nCommandID = CommandId.setDataByCoilAddress)
    (mapped : request.pParams.p0.a.toInt32 = coilAddressInverterStatus)
    (value : requested = (request.pParams.p0.b.toUInt8 ≠ 0 : Bool))
    (succeeds : env.CryptoSucceeds)
    (valid : env.crypto.valid (request.bytes request.pParams.p1)
      (request.bytes request.pParams.p2) = true) :
    AtomicSet old requested ((env.invoke seed request s).2.store filename)
        (env.invoke seed request s).1.1 (env.invoke seed request s).1.2.p3.a ↔
      (env.setResult seed s old requested).length = old.length ∧
        PackedBits.get (env.setResult seed s old requested) 0 = requested ∧
        ∀ i, i ≠ 0 →
          PackedBits.get (env.setResult seed s old requested) i = PackedBits.get old i := by
  obtain ⟨res, verdict, store⟩ := (invoke_effect env seed request s).setAccepts command succeeds valid
  have result : (env.invoke seed request s).2.store filename =
      some (env.setResult seed s old requested) := by
    rw [store, Environment.setResult, coilUpdate_mapped env seed s _ _ mapped, ← value]
    split
    · rw [Function.update_self]
    · exact stored
  rw [res, verdict, result, atomicSet_reported]

theorem set_atomic_iff (old : List UInt8) (stored : s.store filename = some old)
    (command : request.nCommandID = CommandId.setDataByCoilAddress)
    (mapped : request.pParams.p0.a.toInt32 = coilAddressInverterStatus)
    (succeeds : env.CryptoSucceeds)
    (valid : env.crypto.valid (request.bytes request.pParams.p1)
      (request.bytes request.pParams.p2) = true) :
    let r := env.invoke seed request s
    let requested : Bool := request.pParams.p0.b.toUInt8 ≠ 0
    AtomicSet old requested (r.2.store filename) r.1.1 r.1.2.p3.a ↔
      ((env.storage (s.storageCalls + 3)).result = teeSuccess ∧
        old.length = seed.coilData.length ∧
        ∀ i, i ≠ 0 → 8 * env.deliveredCount seed s old.length ≤ i → PackedBits.get old i = false) ∨
      ((env.storage (s.storageCalls + 3)).result ≠ teeSuccess ∧
        PackedBits.get old 0 = requested) := by
  intro r requested
  rw [set_atomic_result env seed s request old requested stored command mapped rfl succeeds valid]
  by_cases created : (env.storage (s.storageCalls + 3)).result = teeSuccess
  · have nonempty := List.length_pos_iff.mpr seed.nonempty
    have length := coilCopy_length env seed s
    have copied := coilCopy_bits env seed s
    rw [stored, Option.getD_some] at copied
    rw [Environment.setResult, if_pos created, PackedBits.set_length, length,
      PackedBits.get_set_same _ _ _ (by rw [length]; omega)]
    constructor
    · rintro ⟨whole, _, others⟩
      refine .inl ⟨created, whole.symm, fun i other undelivered => ?_⟩
      have bit := others i other
      rw [PackedBits.get_set_other _ _ _ _ other, copied] at bit
      rw [← bit, decide_eq_false (by omega), Bool.false_and]
    · rintro (⟨_, whole, zeros⟩ | ⟨failed, _⟩)
      · refine ⟨whole.symm, rfl, fun i other => ?_⟩
        rw [PackedBits.get_set_other _ _ _ _ other, copied]
        by_cases delivered : i < 8 * env.deliveredCount seed s old.length
        · rw [decide_eq_true delivered, Bool.true_and]
        · rw [zeros i other (by omega), Bool.and_false]
      · exact absurd created failed
  · rw [Environment.setResult, if_neg created]
    constructor
    · rintro ⟨_, bit, _⟩
      exact .inr ⟨created, bit⟩
    · rintro (⟨success, _⟩ | ⟨_, bit⟩)
      · exact absurd success created
      · exact ⟨rfl, bit, fun _ _ => rfl⟩

end Atomicity

section Shipped

/-- With no failure at all the shipped coil is updated as asked. -/
theorem set_atomic_iff_shipped :
    AtomicSet [0x00] (Invocation.setOne.pParams.p0.b.toUInt8 ≠ 0)
      ((Environment.reference.invoke .shipped .setOne (.holding [0x00])).2.store filename)
      (Environment.reference.invoke .shipped .setOne (.holding [0x00])).1.1
      (Environment.reference.invoke .shipped .setOne (.holding [0x00])).1.2.p3.a :=
  (set_atomic_iff .reference .shipped (.holding [0x00]) .setOne [0x00] (holding_store _)
    setOne_command setOne_mapped (fun _ => rfl) (setOne_valid _ rfl)).mpr
      (.inl ⟨rfl, rfl, fun i _ beyond => PackedBits.get_outside _ i beyond⟩)

/-- The reference environment with one failing storage call. -/
def Environment.failingAt (call : Nat) : Environment :=
  { Environment.reference with
    storage := fun n => if n = call then .error teeErrorBadState (by decide) else .ok }

/-- A failed open zeroes the other coils; a failed create is reported as applied. -/
theorem set_not_atomic :
    ¬ AtomicSet [0x7F] true
        (((Environment.failingAt 0).invoke .shipped .setOne (.holding [0x7F])).2.store filename)
        ((Environment.failingAt 0).invoke .shipped .setOne (.holding [0x7F])).1.1
        ((Environment.failingAt 0).invoke .shipped .setOne (.holding [0x7F])).1.2.p3.a ∧
      ¬ AtomicSet [0x00] true
        (((Environment.failingAt 3).invoke .shipped .setOne (.holding [0x00])).2.store filename)
        ((Environment.failingAt 3).invoke .shipped .setOne (.holding [0x00])).1.1
        ((Environment.failingAt 3).invoke .shipped .setOne (.holding [0x00])).1.2.p3.a := by
  constructor
  · rw [set_atomic_result _ _ _ _ _ _ (holding_store _) setOne_command setOne_mapped (by decide)
      (fun _ => rfl) (setOne_valid _ rfl)]
    rintro ⟨_, _, others⟩
    exact absurd (others 1 (by decide)) (by decide)
  · rw [set_atomic_result _ _ _ _ _ _ (holding_store _) setOne_command setOne_mapped (by decide)
      (fun _ => rfl) (setOne_valid _ rfl)]
    rintro ⟨_, bit, _⟩
    exact absurd bit (by decide)

end Shipped

end InvCtrl
