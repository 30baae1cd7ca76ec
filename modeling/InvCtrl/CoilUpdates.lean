import InvCtrl.Coil

/-! Sequences of coil updates. With the bit numbers of the array and the -1 of an
unmapped address they are the writes of an array of independent bits. -/
namespace InvCtrl

/-- The coil array after one `ta_updateCoilData` for each bit number and value. -/
def taUpdateAll (updates : List (Int32 × UInt8)) (allCoilData : List UInt8) : List UInt8 :=
  updates.foldl (fun coilData update => taUpdateCoilData update.1 update.2 coilData) allCoilData

/-- A bit number that lies in the array. -/
def BitNumber (coilData : List UInt8) (bitNumber : Int32) : Prop :=
  0 ≤ bitNumber.toInt ∧ bitNumber.toInt < 8 * coilData.length

instance (coilData : List UInt8) : DecidablePred (BitNumber coilData) := fun bitNumber =>
  inferInstanceAs (Decidable (0 ≤ bitNumber.toInt ∧ bitNumber.toInt < 8 * coilData.length))

/-- The bit that an update writes, with its new value. -/
def bitWrite (update : Int32 × UInt8) : Nat × Bool := (update.1.toInt.toNat, update.2 ≠ 0)

@[simp] theorem taUpdateAll_cons (update : Int32 × UInt8) (rest : List (Int32 × UInt8))
    (allCoilData : List UInt8) :
    taUpdateAll (update :: rest) allCoilData =
      taUpdateAll rest (taUpdateCoilData update.1 update.2 allCoilData) := rfl

section Number
variable {bitNumber : Int32} (positive : 0 ≤ bitNumber.toInt)
include positive

theorem bitNumber_bound : bitNumber.toInt.toNat < 2 ^ 31 := by
  have bound := Int32.toInt_lt bitNumber
  omega

theorem ofNat_bitNumber : Int32.ofNat bitNumber.toInt.toNat = bitNumber := by
  apply Int32.toInt_inj.mp
  rw [toInt_bitNumber _ (bitNumber_bound positive), Int.toNat_of_nonneg positive]

theorem taGetCoilValue_number (coilData : List UInt8) :
    taGetCoilValue bitNumber coilData =
      if PackedBits.get coilData bitNumber.toInt.toNat then 1 else 0 := by
  have same := taGetCoilValue_eq _ (bitNumber_bound positive) coilData
  rwa [ofNat_bitNumber positive] at same

theorem taUpdateCoilData_number (coilValue : UInt8) (allCoilData : List UInt8) :
    taUpdateCoilData bitNumber coilValue allCoilData =
      PackedBits.set allCoilData bitNumber.toInt.toNat (coilValue ≠ 0) := by
  have same := taUpdateCoilData_eq _ (bitNumber_bound positive) coilValue allCoilData
  rwa [ofNat_bitNumber positive] at same

theorem bitWrite_other {update : Int32 × UInt8} (inside : 0 ≤ update.1.toInt)
    (other : update.1 ≠ bitNumber) : (bitWrite update).1 ≠ bitNumber.toInt.toNat := by
  intro same
  apply other
  rw [← ofNat_bitNumber inside, ← ofNat_bitNumber positive]
  exact congrArg Int32.ofNat same

end Number

theorem taUpdateAll_filter (updates : List (Int32 × UInt8)) (allCoilData : List UInt8) :
    taUpdateAll (updates.filter (·.1 ≠ -1)) allCoilData = taUpdateAll updates allCoilData := by
  induction updates generalizing allCoilData with
  | nil => rfl
  | cons update rest ih =>
    by_cases unmapped : update.1 = -1
    · rw [List.filter_cons_of_neg (by simp [unmapped]), ih, taUpdateAll_cons, unmapped,
        taUpdateCoilData_unmapped]
    · rw [List.filter_cons_of_pos (by simp [unmapped]), taUpdateAll_cons, taUpdateAll_cons, ih]

/-- The other updates write one bit each. -/
theorem taUpdateAll_setAll {updates : List (Int32 × UInt8)}
    (positive : ∀ update ∈ updates, 0 ≤ update.1.toInt) (allCoilData : List UInt8) :
    taUpdateAll updates allCoilData = PackedBits.setAll allCoilData (updates.map bitWrite) := by
  induction updates generalizing allCoilData with
  | nil => rfl
  | cons update rest ih =>
    rw [taUpdateAll_cons, List.map_cons, PackedBits.setAll_cons,
      taUpdateCoilData_number (positive update List.mem_cons_self)]
    apply ih
    intro later member
    exact positive later (List.mem_cons_of_mem _ member)

section Updated
variable {coilData : List UInt8} {updates : List (Int32 × UInt8)}
  (numbered : ∀ update ∈ updates, BitNumber coilData update.1)
include numbered

theorem bitWrites_inside :
    ∀ write ∈ updates.map bitWrite, write.1 < 8 * coilData.length := by
  intro write member
  obtain ⟨update, listed, rfl⟩ := List.mem_map.mp member
  obtain ⟨positive, bound⟩ := numbered update listed
  simp only [bitWrite]
  omega

/-- Reading after the updates is reading an array of independent bits. -/
theorem taGetCoilValue_updated {i : Int32} (positive : 0 ≤ i.toInt) :
    taGetCoilValue i (taUpdateAll updates coilData) =
      if PackedBits.written (PackedBits.get coilData) (updates.map bitWrite) i.toInt.toNat
        then 1 else 0 := by
  rw [taGetCoilValue_number positive,
    taUpdateAll_setAll fun update member => (numbered update member).1,
    PackedBits.get_setAll (bitWrites_inside numbered)]

theorem bitWrites_other {i : Int32} (positive : 0 ≤ i.toInt)
    (other : ∀ update ∈ updates, update.1 ≠ i) :
    ∀ write ∈ updates.map bitWrite, write.1 ≠ i.toInt.toNat := by
  intro write member
  obtain ⟨update, listed, rfl⟩ := List.mem_map.mp member
  exact bitWrite_other positive (numbered update listed).1 (other update listed)

end Updated

/-- A bit holds its last update or is as it was, and a byte without an updated bit is
as it was; updates of bit number -1 do nothing. -/
theorem coil_bits_independent (coilData : List UInt8) (updates : List (Int32 × UInt8))
    (numbered : ∀ update ∈ updates, update.1 = -1 ∨ BitNumber coilData update.1) :
    let after := taUpdateAll updates coilData
    after.length = coilData.length ∧
      (∀ i, BitNumber coilData i →
        (∀ before coilValue later, updates = before ++ (i, coilValue) :: later →
          (∀ update ∈ later, update.1 ≠ i) →
          taGetCoilValue i after = if coilValue = 0 then 0 else 1) ∧
        ((∀ update ∈ updates, update.1 ≠ i) →
          taGetCoilValue i after =
            if (coilData.getD (i.toInt.toNat / 8) 0).toBitVec.getLsbD (7 - i.toInt.toNat % 8)
              then 1 else 0)) ∧
      (∀ k, (∀ update ∈ updates, BitNumber coilData update.1 → update.1.toInt.toNat / 8 ≠ k) →
        after[k]? = coilData[k]?) ∧
      after = taUpdateAll (updates.filter (·.1 ≠ -1)) coilData := by
  intro after
  let mapped := updates.filter (·.1 ≠ -1)
  have inside : ∀ update ∈ mapped, BitNumber coilData update.1 := by
    intro update member
    obtain ⟨listed, number⟩ := List.mem_filter.mp member
    exact (numbered update listed).resolve_left (of_decide_eq_true number)
  have same : after = taUpdateAll mapped coilData := (taUpdateAll_filter updates coilData).symm
  have packed : after = PackedBits.setAll coilData (mapped.map bitWrite) :=
    same.trans (taUpdateAll_setAll (fun update member => (inside update member).1) coilData)
  refine ⟨?_, fun i number => ⟨fun before coilValue later split last => ?_, fun untouched => ?_⟩,
    fun k untouched => ?_, same⟩
  · rw [packed, PackedBits.setAll_length]
  · -- The update survives the filter, and so does the split of the list at it.
    have kept : mapped = before.filter (·.1 ≠ -1) ++ (i, coilValue) :: later.filter (·.1 ≠ -1) := by
      have positive : i ≠ -1 := by
        rintro rfl
        exact absurd number.1 (by decide)
      simp only [mapped, split, List.filter_append, List.filter_cons, positive, ne_eq,
        not_false_eq_true, decide_true, ↓reduceIte]
    have none : ∀ write ∈ (later.filter (·.1 ≠ -1)).map bitWrite, write.1 ≠ i.toInt.toNat := by
      have numbers : ∀ update ∈ later.filter (·.1 ≠ -1), BitNumber coilData update.1 := by
        intro update member
        apply inside
        rw [kept]
        exact List.mem_append_right _ (List.mem_cons_of_mem _ member)
      exact bitWrites_other numbers number.1 fun update member =>
        last update (List.mem_of_mem_filter member)
    rw [same, taGetCoilValue_updated inside number.1, kept, List.map_append, List.map_cons]
    rw [show bitWrite (i, coilValue) = (i.toInt.toNat, decide (coilValue ≠ 0)) from rfl,
      PackedBits.written_last none]
    by_cases zero : coilValue = 0 <;> simp [zero]
  · rw [same, taGetCoilValue_updated inside number.1, PackedBits.written_untouched
      (bitWrites_other inside number.1 fun update member =>
        untouched update (List.mem_of_mem_filter member)), PackedBits.get]
  · rw [packed]
    apply PackedBits.setAll_byte
    intro write member
    obtain ⟨update, listed, rfl⟩ := List.mem_map.mp member
    exact untouched update (List.mem_of_mem_filter listed) (inside update listed)

/-- Two bits of one byte, the second written twice, with an unmapped update between. -/
theorem coil_bits_independent_byte :
    let after := taUpdateAll [(7, 5), (-1, 1), (7, 0), (1, 9)] [0x80, 0x11]
    taGetCoilValue 7 after = 0 ∧ taGetCoilValue 1 after = 1 ∧ taGetCoilValue 0 after = 1 ∧
      after[1]? = some 0x11 := by
  intro after
  obtain ⟨_, bits, bytes, _⟩ := coil_bits_independent [0x80, 0x11]
    [(7, 5), (-1, 1), (7, 0), (1, 9)] (by
      simp only [List.forall_mem_cons, List.not_mem_nil, false_implies, implies_true]
      decide)
  refine ⟨?_, ?_, ?_, ?_⟩
  · apply (bits 7 (by decide)).1 [(7, 5), (-1, 1)] 0 [(1, 9)] rfl
    simp only [List.forall_mem_cons, List.not_mem_nil, false_implies, implies_true]
    decide
  · apply (bits 1 (by decide)).1 [(7, 5), (-1, 1), (7, 0)] 9 [] rfl
    exact List.forall_mem_nil _
  · apply (bits 0 (by decide)).2
    simp only [List.forall_mem_cons, List.not_mem_nil, false_implies, implies_true]
    decide
  · apply bytes 1
    simp only [List.forall_mem_cons, List.not_mem_nil, false_implies, implies_true]
    decide

end InvCtrl
