import Mathlib.Data.Int.ModEq
import InvCtrl.Coil

/-! The three signed bytes. The application and the host library build them with
different integer types and shifts; both builders denote the same message. -/
namespace InvCtrl

/-- A value under a 16-bit transaction id. -/
def message (value : UInt8) (transactionId : UInt16) : List UInt8 :=
  [value, (transactionId >>> 8).toUInt8, transactionId.toUInt8]

/-- The part of a transaction id that is signed. -/
def low16 (transactionId : Int32) : UInt16 := transactionId.toUInt32.toUInt16

@[simp] theorem message_length (value : UInt8) (transactionId : UInt16) :
    (message value transactionId).length = 3 := rfl

theorem uint16_split {left right : UInt16} (high : (left >>> 8).toUInt8 = (right >>> 8).toUInt8)
    (low : left.toUInt8 = right.toUInt8) : left = right := by
  apply UInt16.toBitVec_inj.mp
  apply BitVec.eq_of_getLsbD_eq
  intro i bound
  have lowBits := congrArg (fun byte => byte.toBitVec.getLsbD i) low
  have highBits := congrArg (fun byte => byte.toBitVec.getLsbD (i - 8)) high
  by_cases first : i < 8
  · simpa [first] using lowBits
  · have place : 8 + (i - 8) = i := by omega
    have second : i - 8 < 8 := by omega
    simpa [second, place] using highBits

theorem message_inj {value value' : UInt8} {id id' : UInt16} :
    message value id = message value' id' ↔ value = value' ∧ id = id' := by
  constructor
  · intro same
    obtain ⟨values, high, low, _⟩ : value = value' ∧ (id >>> 8).toUInt8 = (id' >>> 8).toUInt8 ∧
        id.toUInt8 = id'.toUInt8 ∧ True := by simpa [message] using same
    exact ⟨values, uint16_split high low⟩
  · rintro ⟨rfl, rfl⟩
    rfl

theorem mask_getElem (i : Nat) (bound : i < 8) : (255#8)[i] = true :=
  BitVec.getElem_allOnes i bound

theorem word_toInt (high low : UInt8) :
    ((promote high <<< 8) ||| promote low).toInt = high.toNat * 256 + low.toNat := by
  have highBound := high.toNat_lt
  have lowBound := low.toNat_lt
  have shifted : ((promote high <<< 8) ||| promote low).toBitVec.toNat =
      high.toNat <<< 8 ||| low.toNat := by
    have small : high.toNat <<< 8 % 4294967296 = high.toNat <<< 8 := by
      rw [Nat.shiftLeft_eq]
      omega
    simp [promote, small]
  have joined : high.toNat <<< 8 ||| low.toNat = high.toNat * 256 + low.toNat := by
    rw [← Nat.shiftLeft_add_eq_or_of_lt lowBound, Nat.shiftLeft_eq]
  change ((promote high <<< 8) ||| promote low).toBitVec.toInt = _
  rw [BitVec.toInt_eq_toNat_of_lt (by omega), shifted, joined]
  push_cast
  rfl

/-- The builder of the application: an unsigned shift and a mask. -/
theorem message_unsigned (value : UInt8) (transactionId : UInt32) :
    [value, (transactionId >>> 8).toUInt8, (transactionId &&& 0x00ff).toUInt8] =
      message value transactionId.toUInt16 := by
  have high : (transactionId >>> 8).toUInt8 = (transactionId.toUInt16 >>> 8).toUInt8 := by
    apply UInt8.toBitVec_inj.mp
    apply BitVec.eq_of_getLsbD_eq
    intro i bound
    have inside : 8 + i < 16 := by omega
    simp [bound, inside]
  have low : (transactionId &&& 0x00ff).toUInt8 = transactionId.toUInt16.toUInt8 := by
    apply UInt8.toBitVec_inj.mp
    apply BitVec.eq_of_getLsbD_eq
    intro i bound
    simp [bound, mask_getElem i bound]
  rw [message, high, low]

/-- The builder of the host library: an arithmetic shift of an int, truncated. -/
theorem message_signed (value : UInt8) (transactionId : Int32) :
    [value, truncate (transactionId >>> 8), truncate (transactionId &&& 0x00ff)] =
      message value (low16 transactionId) := by
  have high : truncate (transactionId >>> 8) = (low16 transactionId >>> 8).toUInt8 := by
    apply UInt8.toBitVec_inj.mp
    apply BitVec.eq_of_getLsbD_eq
    intro i bound
    have inside : 8 + i < 16 := by omega
    have within : 8 + i < 32 := by omega
    have outside : ¬ 32 ≤ i := by omega
    simp [truncate, low16, bound, inside, within, outside, BitVec.getLsbD_sshiftRight]
  have low : truncate (transactionId &&& 0x00ff) = (low16 transactionId).toUInt8 := by
    apply UInt8.toBitVec_inj.mp
    apply BitVec.eq_of_getLsbD_eq
    intro i bound
    simp [truncate, low16, bound, mask_getElem i bound]
  rw [message, high, low]

theorem low16_toNat (id : Int32) : ((low16 id).toNat : Int) = id.toInt % 2 ^ 16 := by
  have residue : (low16 id).toNat = id.toBitVec.toNat % 2 ^ 16 :=
    UInt32.toNat_toUInt16 id.toUInt32
  have signed : id.toInt = if 2 * id.toBitVec.toNat < 2 ^ 32 then (id.toBitVec.toNat : Int)
      else id.toBitVec.toNat - 2 ^ 32 := BitVec.toInt_eq_toNat_cond id.toBitVec
  rw [residue, signed]
  split <;> omega

theorem low16_eq_iff {left right : Int32} :
    low16 left = low16 right ↔ left.toInt ≡ right.toInt [ZMOD 2 ^ 16] := by
  rw [Int.ModEq, ← low16_toNat, ← low16_toNat, Nat.cast_inj, UInt16.toNat_inj]

end InvCtrl
