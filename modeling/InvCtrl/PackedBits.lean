import Mathlib.Logic.Function.Basic
import Mathlib.Data.List.Basic

/-! Bits packed into bytes, the most significant bit of a byte first. The packed
list behaves as the array of independent bits `get`: `get_set_same`, `get_set_other`
and `ext` are the rules a client needs, and `get_setAll` carries over what holds of
any array after a sequence of writes. -/
namespace PackedBits

def get (bytes : List UInt8) (i : Nat) : Bool :=
  (bytes.getD (i / 8) 0).toBitVec.getLsbD (7 - i % 8)

/-- A byte with its bit of weight `2 ^ weight` replaced. -/
def withBit (byte : UInt8) (weight : Nat) (bit : Bool) : UInt8 :=
  ⟨if bit then byte.toBitVec ||| BitVec.twoPow 8 weight
    else byte.toBitVec &&& ~~~(BitVec.twoPow 8 weight)⟩

def set (bytes : List UInt8) (i : Nat) (bit : Bool) : List UInt8 :=
  bytes.modify (i / 8) fun byte => withBit byte (7 - i % 8) bit

@[simp] theorem set_length (bytes : List UInt8) (i : Nat) (bit : Bool) :
    (set bytes i bit).length = bytes.length := by simp [set]

theorem withBit_getLsbD (byte : UInt8) (weight j : Nat) (bit : Bool) (bound : j < 8) :
    (withBit byte weight bit).toBitVec.getLsbD j =
      if j = weight then bit else byte.toBitVec.getLsbD j := by
  by_cases same : j = weight
  · subst same
    cases bit <;> simp [withBit, bound]
  · cases bit <;> simp [withBit, bound, same]

theorem get_outside (bytes : List UInt8) (i : Nat) (outside : 8 * bytes.length ≤ i) :
    get bytes i = false := by
  have past : bytes.length ≤ i / 8 := by omega
  simp [get, List.getD, past]

theorem get_set_same (bytes : List UInt8) (i : Nat) (bit : Bool) (inside : i < 8 * bytes.length) :
    get (set bytes i bit) i = bit := by
  have bound : i / 8 < bytes.length := by omega
  simp only [get, set, List.getD_eq_getElem?_getD, List.getElem?_modify_eq,
    List.getElem?_eq_getElem bound, Option.map_eq_map, Option.map_some, Option.getD_some]
  rw [withBit_getLsbD _ _ _ _ (by omega), if_pos rfl]

theorem get_set_other (bytes : List UInt8) (i j : Nat) (bit : Bool) (different : j ≠ i) :
    get (set bytes i bit) j = get bytes j := by
  by_cases outside : 8 * bytes.length ≤ j
  · rw [get_outside _ _ outside, get_outside _ _ (by simpa using outside)]
  have bound : j / 8 < bytes.length := by omega
  simp only [get, set, List.getD_eq_getElem?_getD, List.getElem?_modify]
  by_cases byte : i / 8 = j / 8
  · simp only [byte, ↓reduceIte, List.getElem?_eq_getElem bound, Option.map_eq_map,
      Option.map_some, Option.getD_some]
    rw [withBit_getLsbD _ _ _ _ (by omega), if_neg (by omega)]
  · simp [byte]

theorem ext {left right : List UInt8} (length : left.length = right.length)
    (bits : ∀ i, i < 8 * left.length → get left i = get right i) : left = right := by
  refine List.ext_getElem length fun k lb rb => UInt8.toBitVec_inj.mp ?_
  refine BitVec.eq_of_getLsbD_eq fun j bound => ?_
  have same := bits (8 * k + (7 - j)) (by omega)
  have byte : (8 * k + (7 - j)) / 8 = k := by omega
  have weight : 7 - (8 * k + (7 - j)) % 8 = j := by omega
  simpa only [get, byte, weight, List.getD_eq_getElem?_getD, List.getElem?_eq_getElem lb,
    List.getElem?_eq_getElem rb, Option.getD_some] using same

theorem set_get (bytes : List UInt8) (i : Nat) : set bytes i (get bytes i) = bytes := by
  refine ext (by simp) fun j inside => ?_
  rw [set_length] at inside
  by_cases same : j = i
  · subst same; exact get_set_same _ _ _ inside
  · exact get_set_other _ _ _ _ same

/-- A prefix padded with zero bytes has the bits of the prefix and no others. -/
theorem get_take_append_zeros (bytes : List UInt8) (count zeros i : Nat) :
    get (bytes.take count ++ List.replicate zeros 0) i =
      (decide (i < 8 * count) && get bytes i) := by
  have zero : (0 : UInt8).toBitVec.getLsbD (7 - i % 8) = false := by simp
  by_cases inside : i / 8 < (bytes.take count).length
  · have within : i < 8 * count := by
      rw [List.length_take] at inside
      omega
    have prefixed : i / 8 < count := by omega
    simp only [get, List.getD_eq_getElem?_getD, List.getElem?_append_left inside,
      List.getElem?_take, prefixed, within, decide_true, Bool.true_and, ↓reduceIte]
  · have padded : ((bytes.take count ++ List.replicate zeros 0)[i / 8]?).getD 0 = 0 := by
      rw [List.getElem?_append_right (by omega), List.getElem?_replicate]
      split <;> rfl
    rw [get, List.getD_eq_getElem?_getD, padded, zero]
    by_cases within : i < 8 * count
    · rw [get_outside bytes i (by rw [List.length_take] at inside; omega), Bool.and_false]
    · simp [within]

theorem set_set (bytes : List UInt8) (i : Nat) (first last : Bool) :
    set (set bytes i first) i last = set bytes i last := by
  refine ext (by simp) fun j inside => ?_
  rw [set_length, set_length] at inside
  by_cases same : j = i
  · subst same
    rw [get_set_same _ _ _ (by simpa using inside), get_set_same _ _ _ inside]
  · rw [get_set_other _ _ _ _ same, get_set_other _ _ _ _ same, get_set_other _ _ _ _ same]

section Writes
variable {Index Value : Type} [DecidableEq Index]

/-- An array of independent cells after a sequence of writes. -/
def written (cells : Index → Value) (writes : List (Index × Value)) : Index → Value :=
  writes.foldl (fun cells write => Function.update cells write.1 write.2) cells

@[simp] theorem written_cons (cells : Index → Value) (write : Index × Value)
    (rest : List (Index × Value)) :
    written cells (write :: rest) = written (Function.update cells write.1 write.2) rest := rfl

theorem written_append (cells : Index → Value) (before after : List (Index × Value)) :
    written cells (before ++ after) = written (written cells before) after :=
  List.foldl_append

theorem written_untouched {i : Index} {writes : List (Index × Value)}
    (untouched : ∀ write ∈ writes, write.1 ≠ i) (cells : Index → Value) :
    written cells writes i = cells i := by
  induction writes generalizing cells with
  | nil => rfl
  | cons write rest ih =>
    have other : i ≠ write.1 := (untouched write List.mem_cons_self).symm
    rw [written_cons, ih fun later member => untouched later (List.mem_cons_of_mem _ member)]
    exact Function.update_of_ne other _ _

/-- A cell holds what was written to it last. -/
theorem written_last {i : Index} {value : Value} {after : List (Index × Value)}
    (last : ∀ write ∈ after, write.1 ≠ i) (cells : Index → Value)
    (before : List (Index × Value)) :
    written cells (before ++ (i, value) :: after) i = value := by
  rw [written_append, written_cons, written_untouched last]
  exact Function.update_self ..

end Writes

/-- The packed list after a sequence of writes. -/
def setAll (bytes : List UInt8) (writes : List (Nat × Bool)) : List UInt8 :=
  writes.foldl (fun bytes write => set bytes write.1 write.2) bytes

@[simp] theorem setAll_cons (bytes : List UInt8) (write : Nat × Bool) (rest : List (Nat × Bool)) :
    setAll bytes (write :: rest) = setAll (set bytes write.1 write.2) rest := rfl

@[simp] theorem setAll_length (bytes : List UInt8) (writes : List (Nat × Bool)) :
    (setAll bytes writes).length = bytes.length := by
  induction writes generalizing bytes with
  | nil => rfl
  | cons write rest ih => rw [setAll_cons, ih, set_length]

theorem get_set (bytes : List UInt8) (i : Nat) (bit : Bool) (inside : i < 8 * bytes.length) :
    get (set bytes i bit) = Function.update (get bytes) i bit := by
  funext j
  by_cases same : j = i
  · subst same
    rw [get_set_same _ _ _ inside, Function.update_self]
  · rw [get_set_other _ _ _ _ same, Function.update_of_ne same]

/-- Writes inside the packed list are the writes of an array of independent bits. -/
theorem get_setAll {writes : List (Nat × Bool)} {bytes : List UInt8}
    (inside : ∀ write ∈ writes, write.1 < 8 * bytes.length) :
    get (setAll bytes writes) = written (get bytes) writes := by
  induction writes generalizing bytes with
  | nil => rfl
  | cons write rest ih =>
    rw [setAll_cons, written_cons, ← get_set _ _ _ (inside write List.mem_cons_self)]
    apply ih
    intro later member
    rw [set_length]
    exact inside later (List.mem_cons_of_mem _ member)

theorem setAll_byte {k : Nat} {writes : List (Nat × Bool)}
    (untouched : ∀ write ∈ writes, write.1 / 8 ≠ k) (bytes : List UInt8) :
    (setAll bytes writes)[k]? = bytes[k]? := by
  induction writes generalizing bytes with
  | nil => rfl
  | cons write rest ih =>
    have other : write.1 / 8 ≠ k := untouched write List.mem_cons_self
    rw [setAll_cons, ih fun later member => untouched later (List.mem_cons_of_mem _ member), set,
      List.getElem?_modify_ne _ _ other]

end PackedBits
