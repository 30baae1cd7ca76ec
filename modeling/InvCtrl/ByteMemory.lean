import Mathlib.Logic.Function.Basic

/-! Memory reached from one pointer, as a total function of the offset. Totality
keeps writes past the end of a buffer visible: they land at offsets the buffer
does not own, and the frame lemmas say which offsets a loop can reach. -/

abbrev ByteMemory := Nat → UInt8

namespace ByteMemory

/-- The `count` bytes from offset `start` on. -/
def slice (m : ByteMemory) (start count : Nat) : List UInt8 :=
  (List.range count).map fun i => m (start + i)

def write (m : ByteMemory) (offset : Nat) (value : UInt8) : ByteMemory :=
  fun i => if i = offset then value else m i

/-- The memory once `values` have been stored from offset `start` on. -/
def overlay (m : ByteMemory) (start : Nat) (values : List UInt8) : ByteMemory :=
  fun i => if start ≤ i then values.getD (i - start) (m i) else m i

def ofBytes (values : List UInt8) : ByteMemory := overlay (fun _ => 0) 0 values

/-- Pointer arithmetic: the memory seen from a pointer moved up by `amount`. -/
def shift (m : ByteMemory) (amount : Nat) : ByteMemory := fun i => m (amount + i)

/-- The state of `for (loop = 0; loop < count; loop++) dst[base + loop] = src[loop]`
after `count` iterations. -/
def copyLoop (src dst : ByteMemory) (base : Nat) : Nat → ByteMemory
  | 0 => dst
  | loop + 1 => (copyLoop src dst base loop).write (base + loop) (src loop)

@[simp] theorem slice_length (m : ByteMemory) (start count : Nat) :
    (m.slice start count).length = count := by simp [slice]

theorem slice_congr {m n : ByteMemory} {a b count : Nat}
    (same : ∀ i, i < count → m (a + i) = n (b + i)) : m.slice a count = n.slice b count := by
  apply List.map_congr_left
  intro i member
  exact same i (List.mem_range.mp member)

@[simp] theorem slice_shift (m : ByteMemory) (amount start count : Nat) :
    (m.shift amount).slice start count = m.slice (amount + start) count :=
  slice_congr fun i _ => by simp [shift, Nat.add_assoc]

@[simp] theorem write_same (m : ByteMemory) (offset : Nat) (value : UInt8) :
    m.write offset value offset = value := by simp [write]

@[simp] theorem write_other (m : ByteMemory) (offset i : Nat) (value : UInt8) (apart : i ≠ offset) :
    m.write offset value i = m i := by simp [write, apart]

@[simp] theorem overlay_nil (m : ByteMemory) (start : Nat) : m.overlay start [] = m := by
  funext i; simp [overlay]

theorem overlay_cons (m : ByteMemory) (start : Nat) (value : UInt8) (rest : List UInt8) :
    m.overlay start (value :: rest) = (m.write start value).overlay (start + 1) rest := by
  funext i
  rcases Nat.lt_trichotomy i start with below | rfl | above
  · simp [overlay, Nat.not_le.mpr below, Nat.not_le.mpr (Nat.lt_succ_of_lt below), Nat.ne_of_lt below]
  · have past : ¬ i + 1 ≤ i := by omega
    simp [overlay, past]
  · have step : i - start = (i - (start + 1)) + 1 := by omega
    have next : start + 1 ≤ i := above
    simp only [overlay, if_pos (Nat.le_of_lt above), if_pos next, step, List.getD_cons_succ,
      write_other _ _ _ _ (Nat.ne_of_gt above)]

theorem overlay_inside (m : ByteMemory) (start i : Nat) (values : List UInt8)
    (bound : i < values.length) : m.overlay start values (start + i) = values[i] := by
  simp [overlay, bound]

theorem overlay_outside (m : ByteMemory) (start i : Nat) (values : List UInt8)
    (outside : i < start ∨ start + values.length ≤ i) : m.overlay start values i = m i := by
  unfold overlay
  split
  · have past : values.length ≤ i - start := by omega
    simp [past]
  · rfl

@[simp] theorem slice_overlay (m : ByteMemory) (start : Nat) (values : List UInt8) :
    (m.overlay start values).slice start values.length = values := by
  refine List.ext_getElem (by simp) fun i left right => ?_
  simp only [slice, List.getElem_map, List.getElem_range]
  exact overlay_inside m start i values right

theorem slice_overlay_slice (m n : ByteMemory) (start size count : Nat) (within : count ≤ size) :
    (m.overlay start (n.slice start size)).slice start count = n.slice start count := by
  refine slice_congr fun i bound => ?_
  have inside : i < (n.slice start size).length := by
    rw [slice_length]
    omega
  rw [overlay_inside _ _ _ _ inside]
  simp [slice]

/-- Of values of one length only the same leave the same memory. -/
theorem overlay_inj {m : ByteMemory} {start : Nat} {left right : List UInt8}
    (lengths : left.length = right.length)
    (same : m.overlay start left = m.overlay start right) : left = right := by
  have stored := m.slice_overlay start left
  rw [same, lengths, slice_overlay] at stored
  exact stored.symm

theorem overlay_write_head (m : ByteMemory) (start : Nat) (head value : UInt8)
    (rest : List UInt8) :
    (m.overlay start (head :: rest)).write start value = m.overlay start (value :: rest) := by
  funext i
  by_cases first : i = start
  · subst first
    simp [overlay]
  · rw [write_other _ _ _ _ first]
    unfold overlay
    split
    · have step : i - start = (i - (start + 1)) + 1 := by omega
      rw [step, List.getD_cons_succ, List.getD_cons_succ]
    · rfl

@[simp] theorem overlay_slice (m : ByteMemory) (start count : Nat) :
    m.overlay start (m.slice start count) = m := by
  funext i
  by_cases inside : start ≤ i ∧ i < start + count
  · obtain ⟨offset, rfl⟩ := Nat.exists_eq_add_of_le inside.1
    have bound : offset < (m.slice start count).length := by rw [slice_length]; omega
    rw [overlay_inside _ _ _ _ bound]
    simp [slice]
  · exact overlay_outside _ _ _ _ (by rw [slice_length]; omega)

@[simp] theorem slice_ofBytes (values : List UInt8) :
    (ofBytes values).slice 0 values.length = values := slice_overlay _ 0 values

theorem copyLoop_inside (src dst : ByteMemory) (base count i : Nat) (bound : i < count) :
    copyLoop src dst base count (base + i) = src i := by
  induction count with
  | zero => omega
  | succ loop ih =>
    by_cases last : i = loop
    · subst last; simp [copyLoop]
    · rw [copyLoop, write_other _ _ _ _ (by omega), ih (by omega)]

theorem copyLoop_outside (src dst : ByteMemory) (base count i : Nat)
    (outside : i < base ∨ base + count ≤ i) : copyLoop src dst base count i = dst i := by
  induction count with
  | zero => rfl
  | succ loop ih => rw [copyLoop, write_other _ _ _ _ (by omega), ih (by omega)]

/-- A copy loop stores the bytes it read in one piece. -/
theorem copyLoop_eq_overlay (src dst : ByteMemory) (base count : Nat) :
    copyLoop src dst base count = dst.overlay base (src.slice 0 count) := by
  funext i
  by_cases inside : base ≤ i ∧ i < base + count
  · obtain ⟨offset, rfl⟩ := Nat.exists_eq_add_of_le inside.1
    have bound : offset < (src.slice 0 count).length := by rw [slice_length]; omega
    rw [copyLoop_inside _ _ _ _ _ (by omega), overlay_inside _ _ _ _ bound]
    simp [slice]
  · rw [copyLoop_outside _ _ _ _ _ (by omega), overlay_outside _ _ _ _ (by
      rw [slice_length]
      omega)]

/-- What the loop leaves behind is exactly what it read. -/
theorem slice_copyLoop (src dst : ByteMemory) (base count : Nat) :
    (copyLoop src dst base count).slice base count = src.slice 0 count :=
  slice_congr fun i bound => by rw [copyLoop_inside _ _ _ _ _ bound, Nat.zero_add]

end ByteMemory
