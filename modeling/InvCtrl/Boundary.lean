import InvCtrl.Register

/-! The boundary of the application: what a set that changes the store has
authenticated. The verified bytes and the written value arrive in different
parameters, and the application does not compare them. -/
namespace InvCtrl

section Set
variable (env : Environment) (seed : Seed) (s : Tee) (request : Invocation)

/-- The stored bit changes only to the value that the verified bytes begin with. -/
def SetAuthenticated : Prop :=
  ∀ old new, s.store filename = some old →
    (env.invoke seed request s).2.store filename = some new →
    PackedBits.get new 0 ≠ PackedBits.get old 0 →
    ∃ value high low, request.bytes request.pParams.p1 = [value, high, low] ∧
      PackedBits.get new 0 = (value ≠ 0 : Bool)

/-- Whatever fails, a change of the store needs a valid signature on exactly the data
parameter. The coil then is the one `value.b` asks for, which is the signed one exactly
if the two agree on being zero; a set of any other address writes back what it read. -/
theorem set_change_verified (command : request.nCommandID = CommandId.setDataByCoilAddress)
    (changed : (env.invoke seed request s).2.store filename ≠ s.store filename) :
    env.crypto.valid (request.bytes request.pParams.p1) (request.bytes request.pParams.p2) = true ∧
      ∃ new, (env.invoke seed request s).2.store filename = some new ∧
        (request.pParams.p0.a.toInt32 = coilAddressInverterStatus →
          PackedBits.get new 0 = (request.pParams.p0.b.toUInt8 ≠ 0 : Bool) ∧
          ∀ value high low, request.bytes request.pParams.p1 = [value, high, low] →
            (PackedBits.get new 0 = (value ≠ 0 : Bool) ↔
              (request.pParams.p0.b.toUInt8 = 0 ↔ value = 0))) ∧
        (request.pParams.p0.a.toInt32 ≠ coilAddressInverterStatus → new = env.coilCopy seed s) := by
  have nonempty := List.length_pos_iff.mpr seed.nonempty
  have length := coilCopy_length env seed s
  rcases (invoke_effect env seed request s).store with
    ⟨seeding, _⟩ | ⟨_, valid, store⟩ | ⟨_, _, store⟩
  · exact absurd (seeding.symm.trans command) (by decide)
  · by_cases created : (env.storage (s.storageCalls + 3)).result = teeSuccess
    · rw [if_pos created] at store
      refine ⟨valid, env.coilUpdate seed s request.pParams.p0.a request.pParams.p0.b, ?_, ?_, ?_⟩
      · rw [store, Function.update_self]
      · intro mapped
        have bit : PackedBits.get
            (env.coilUpdate seed s request.pParams.p0.a request.pParams.p0.b) 0 =
            (request.pParams.p0.b.toUInt8 ≠ 0 : Bool) := by
          rw [coilUpdate_mapped env seed s _ _ mapped]
          exact PackedBits.get_set_same _ _ _ (by omega)
        refine ⟨bit, ?_⟩
        intro value high low _
        rw [bit, decide_eq_decide]
        exact not_iff_not
      · intro unmapped
        rw [Environment.coilUpdate, taUpdateCoilData_address, if_neg unmapped]
        exact List.take_of_length_le (Nat.le_of_eq length)
    · exact absurd (by rw [store, if_neg created]) changed
  · exact absurd (by rw [store]) changed

end Set

section Shipped

/-- A set of the mapped coil under the reference scheme, signed for `signed` and
presented with `value`. -/
def Invocation.setSigned (signed : UInt8) (value : UInt32) : Invocation :=
  .setCoil [signed, 0, 1] (Crypto.reference.signature [signed, 0, 1]) 0x13 value

theorem setSigned_store (signed : UInt8) (value : UInt32) :
    (Environment.reference.invoke .shipped (.setSigned signed value) (.holding [0x00])).2.store
      filename = some (PackedBits.set [0x00] 0 (value.toUInt8 ≠ 0)) := by
  have result := invoke_setData .shipped reference_succeeds (.setSigned signed value)
    (holding_store [0x00]) rfl (setCoil_command ..) (setCoil_valid _ _ _ _ _ rfl rfl rfl)
  exact result.2

theorem set_change_verified_shipped :
    let request := Invocation.setSigned 1 1
    ∃ new, (Environment.reference.invoke .shipped request (.holding [0x00])).2.store filename =
      some new ∧ PackedBits.get new 0 = true := by
  intro request
  have changed : (Environment.reference.invoke .shipped request (.holding [0x00])).2.store filename ≠
      (Tee.holding [0x00]).store filename := by
    rw [setSigned_store, holding_store]
    decide
  obtain ⟨_, new, written, authenticated, _⟩ := set_change_verified .reference .shipped
    (.holding [0x00]) request (setCoil_command ..) changed
  exact ⟨new, written, (authenticated rfl).1⟩

/-- A signed 0 whose delivery carries 1 in `value.b` sets the coil. -/
theorem set_not_authenticated :
    ¬ SetAuthenticated .reference .shipped (.holding [0x00]) (.setSigned 0 1) := by
  intro authenticated
  obtain ⟨value, high, low, data, bit⟩ := authenticated _ _ (holding_store _)
    (setSigned_store 0 1) (by decide)
  rw [Invocation.setSigned, setCoil_data _ _ _ _ (by decide)] at data
  cases data
  exact absurd bit (by decide)

end Shipped

end InvCtrl
