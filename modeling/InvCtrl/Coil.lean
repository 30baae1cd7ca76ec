import Mathlib.Tactic.IntervalCases
import InvCtrl.PackedBits

/-! The coil bits of the trusted application. `int` is `Int32`: division and
remainder truncate toward zero, and a byte is promoted before it is shifted or
masked and truncated when it is stored back. -/
namespace InvCtrl

def coilAddressInverterStatus : Int32 := 0x13
def bitAddressInverterStatus : Int32 := 0

/-- The initializer of the coil array; a C array has at least one element. -/
structure Seed where
  coilData : List UInt8
  nonempty : coilData ≠ []

/-- The array the application ships. -/
def Seed.shipped : Seed := ⟨[0x00], by simp⟩

def promote (byte : UInt8) : Int32 := byte.toUInt32.toInt32
def truncate (value : Int32) : UInt8 := value.toUInt32.toUInt8

def setBit (val : UInt8) (bitIndex : Int32) : UInt8 := truncate (promote val ||| (1 <<< bitIndex))
def clearBit (val : UInt8) (bitIndex : Int32) : UInt8 :=
  truncate (promote val &&& ~~~(1 <<< bitIndex))

def taGetBitNumberForCoil (coilAddress : Int32) : Int32 :=
  if coilAddress = coilAddressInverterStatus then bitAddressInverterStatus else -1

/-- The element an `int` subscript selects. -/
def subscript (index : Int32) : Nat := index.toInt.toNat

def taGetCoilValue (bitNumber : Int32) (coilData : List UInt8) : UInt8 :=
  let bitNumberAddressIndex := bitNumber / 8
  let bitNumberAddressOffset := 7 - bitNumber % 8
  let bitValue :=
    (promote (coilData.getD (subscript bitNumberAddressIndex) 0) >>> bitNumberAddressOffset) &&& 0x01
  truncate bitValue

def taUpdateCoilData (bitNumber : Int32) (coilValue : UInt8) (allCoilData : List UInt8) :
    List UInt8 :=
  let bitNumberAddressIndex := bitNumber / 8
  let bitNumberAddressOffset := 7 - bitNumber % 8
  allCoilData.modify (subscript bitNumberAddressIndex) fun val =>
    if coilValue = 0 then clearBit val bitNumberAddressOffset
    else setBit val bitNumberAddressOffset

theorem toBitVec_one_shiftLeft (weight : Nat) (bound : weight ≤ 8) :
    ((1 : Int32) <<< Int32.ofNat weight).toBitVec = BitVec.twoPow 32 weight := by
  interval_cases weight <;> decide

theorem toBitVec_setBit (val : UInt8) (weight : Nat) (bound : weight ≤ 8) :
    (setBit val (Int32.ofNat weight)).toBitVec = val.toBitVec ||| BitVec.twoPow 8 weight := by
  have bit := toBitVec_one_shiftLeft weight bound
  apply BitVec.eq_of_getLsbD_eq
  intro j inside
  have small : weight < 32 := by omega
  simp [setBit, truncate, promote, bit, inside, small, @eq_comm _ weight]

theorem toBitVec_clearBit (val : UInt8) (weight : Nat) (bound : weight ≤ 8) :
    (clearBit val (Int32.ofNat weight)).toBitVec = val.toBitVec &&& ~~~(BitVec.twoPow 8 weight) := by
  have bit := toBitVec_one_shiftLeft weight bound
  apply BitVec.eq_of_getLsbD_eq
  intro j inside
  have small : weight < 32 := by omega
  simp [clearBit, truncate, promote, bit, inside, small, @eq_comm _ weight]

theorem twoPow_eight : BitVec.twoPow 8 8 = 0#8 := by decide

/-- A weight of 8, the offset of bit number -1, lies outside the byte. -/
theorem setBit_eight (val : UInt8) : setBit val 8 = val := by
  apply UInt8.toBitVec_inj.mp
  have stored := toBitVec_setBit val 8 (Nat.le_refl 8)
  rwa [twoPow_eight, BitVec.or_zero] at stored

theorem clearBit_eight (val : UInt8) : clearBit val 8 = val := by
  apply UInt8.toBitVec_inj.mp
  have stored := toBitVec_clearBit val 8 (Nat.le_refl 8)
  rwa [twoPow_eight, BitVec.not_zero, BitVec.and_allOnes] at stored

theorem toBitVec_shiftRight (val : UInt8) (weight : Nat) (bound : weight ≤ 8) :
    (promote val >>> Int32.ofNat weight).toBitVec = val.toBitVec.setWidth 32 >>> weight := by
  have positive : (val.toBitVec.setWidth 32).msb = false := by
    rw [BitVec.msb_setWidth]
    simp
  have amount : ((Int32.ofNat weight).toBitVec.smod 32).toNat = weight := by
    interval_cases weight <;> decide
  rw [Int32.toBitVec_shiftRight, BitVec.sshiftRight_eq', amount,
    ← BitVec.sshiftRight_eq_of_msb_false positive]
  rfl

theorem truncate_shiftRight (val : UInt8) (weight : Nat) (bound : weight ≤ 8) :
    truncate ((promote val >>> Int32.ofNat weight) &&& 0x01) =
      if val.toBitVec.getLsbD weight then 1 else 0 := by
  have shifted := toBitVec_shiftRight val weight bound
  apply UInt8.toBitVec_inj.mp
  apply BitVec.eq_of_getLsbD_eq
  intro j inside
  have small : weight < 32 := by omega
  by_cases lowest : j = 0
  · subst lowest
    simp only [truncate]
    split
    · next set => simp [shifted, set, small]
    · next clear => simp [shifted, clear]
  · simp only [truncate]
    split <;> simp [shifted, lowest]

section Index
variable (i : Nat) (bound : i < 2 ^ 31)
include bound

theorem toInt_bitNumber : (Int32.ofNat i).toInt = i := Int32.toInt_ofNat_of_lt bound

theorem subscript_bitNumber : subscript (Int32.ofNat i / 8) = i / 8 := by
  have quotient : (Int32.ofNat i / 8).toInt = (Int32.ofNat i).toInt.tdiv (8 : Int32).toInt :=
    Int32.toInt_div_of_ne_right _ _ (by decide)
  have eight : (8 : Int32).toInt = 8 := by decide
  rw [subscript, quotient, toInt_bitNumber i bound, eight, Int.tdiv_eq_ediv_of_nonneg (by omega)]
  omega

theorem offset_bitNumber : 7 - Int32.ofNat i % 8 = Int32.ofNat (7 - i % 8) := by
  have eight : (8 : Int32).toInt = 8 := by decide
  have seven : (7 : Int32).toInt = 7 := by decide
  have remainder : (Int32.ofNat i % 8).toInt = (i : Int) % 8 := by
    rw [Int32.toInt_mod, toInt_bitNumber i bound, eight, Int.tmod_eq_emod_of_nonneg (by omega)]
  apply Int32.toInt_inj.mp
  rw [Int32.toInt_sub, seven, remainder, Int32.toInt_ofNat_of_lt (by omega)]
  rw [Int.bmod_eq_of_le] <;> omega

end Index

theorem taGetCoilValue_eq (i : Nat) (bound : i < 2 ^ 31) (coilData : List UInt8) :
    taGetCoilValue (Int32.ofNat i) coilData = if PackedBits.get coilData i then 1 else 0 := by
  simp only [taGetCoilValue, subscript_bitNumber i bound, offset_bitNumber i bound, PackedBits.get]
  exact truncate_shiftRight _ _ (by omega)

theorem taUpdateCoilData_eq (i : Nat) (bound : i < 2 ^ 31) (coilValue : UInt8)
    (allCoilData : List UInt8) :
    taUpdateCoilData (Int32.ofNat i) coilValue allCoilData =
      PackedBits.set allCoilData i (coilValue ≠ 0) := by
  simp only [taUpdateCoilData, subscript_bitNumber i bound, offset_bitNumber i bound, PackedBits.set]
  congr 1
  funext val
  apply UInt8.toBitVec_inj.mp
  have weight : 7 - i % 8 ≤ 8 := by omega
  by_cases zero : coilValue = 0
  · simp [zero, PackedBits.withBit, toBitVec_clearBit _ _ weight]
  · simp [zero, PackedBits.withBit, toBitVec_setBit _ _ weight]

theorem taGetCoilValue_unmapped (coilData : List UInt8) : taGetCoilValue (-1) coilData = 0 := by
  have offset : 7 - (-1 : Int32) % 8 = Int32.ofNat 8 := by decide
  simp only [taGetCoilValue, offset]
  rw [truncate_shiftRight _ 8 (Nat.le_refl 8)]
  simp

theorem taUpdateCoilData_unmapped (coilValue : UInt8) (allCoilData : List UInt8) :
    taUpdateCoilData (-1) coilValue allCoilData = allCoilData := by
  have offset : 7 - (-1 : Int32) % 8 = 8 := by decide
  simp only [taUpdateCoilData, offset, setBit_eight, clearBit_eight, ite_self]
  exact List.modify_id _ _

/-- The value the application reads for an address and the data it writes back. -/
theorem taGetCoilValue_address (coilAddress : Int32) (coilData : List UInt8) :
    taGetCoilValue (taGetBitNumberForCoil coilAddress) coilData =
      if coilAddress = coilAddressInverterStatus ∧ PackedBits.get coilData 0 then 1 else 0 := by
  unfold taGetBitNumberForCoil
  split
  · next mapped => simp only [mapped, true_and]; exact taGetCoilValue_eq 0 (by decide) coilData
  · next unmapped => simp [unmapped, taGetCoilValue_unmapped]

theorem taUpdateCoilData_address (coilAddress : Int32) (coilValue : UInt8)
    (allCoilData : List UInt8) :
    taUpdateCoilData (taGetBitNumberForCoil coilAddress) coilValue allCoilData =
      if coilAddress = coilAddressInverterStatus then PackedBits.set allCoilData 0 (coilValue ≠ 0)
      else allCoilData := by
  unfold taGetBitNumberForCoil
  split
  · next mapped => exact taUpdateCoilData_eq 0 (by decide) coilValue allCoilData
  · next unmapped => exact taUpdateCoilData_unmapped coilValue allCoilData

end InvCtrl
