import ChipEight.Memory

/-!
# Blocks of memory

Every access asks `Memory.Outside` before it does anything, so each of them is one condition and one
result. They are stated here in that form, and the processor's instructions are analysed in the form
that blocks have here; nothing after this module opens the accesses again.

A block that lies inside memory has exactly the bytes it asks for (`block_eq_map`), and storing one
leaves the bytes at all other addresses alone (`byteAt_setBytes_of_outside`). Blocks come back both
ways: what was stored is read again (`block_setBytes`), and storing what was read changes nothing
(`setBytes_block`).
-/

namespace ChipEight.Memory

variable {m : Memory} {address : Int}

/-- The bytes that reading a block yields where it is allowed. -/
def block (m : Memory) (address size : Int) : List UInt8 :=
  (m.cells.extract address.toNat (m.blockEnd address size)).toList

/-- Reading a block, as one condition and one result. -/
theorem readBlock_eq (m : Memory) (address size : Int) :
    m.readBlock address size =
      if m.Outside address size then .error (.fault (.memoryAccess address size))
      else .ok (m.block address size) := by
  unfold readBlock check
  split <;> rfl

/-- Writing a block, as one condition and one result. -/
theorem writeBlock_eq (m : Memory) (address : Int) (block : List UInt8) :
    m.writeBlock address block =
      if m.Outside address block.length then
        .error (.fault (.memoryAccess address block.length))
      else .ok (m.setBytes address.toNat block) := by
  unfold writeBlock check
  split <;> rfl

/-- Reading a byte, as one condition and one result. -/
theorem read_eq (m : Memory) (address : Int) :
    m.read address =
      if m.Outside address 1 then .error (.fault (.memoryAccess address 1))
      else .ok (m.byteAt address.toNat) := by
  unfold read check
  split <;> rfl

/-- Writing a byte, as two conditions and one result. The bounds come first. -/
theorem write_eq (m : Memory) (address value : Int) :
    m.write address value =
      if m.Outside address 1 then .error (.fault (.memoryAccess address 1))
      else if 0 ≤ value ∧ value < 256 then .ok (m.setByte address.toNat (UInt8.ofNat value.toNat))
      else .error (.notAByte value) := by
  unfold write check
  split
  · rfl
  · rfl

/-- Zeroing a block, as one condition and one result. A block inside memory is no larger than memory
itself. -/
theorem zeroBlock_eq (held : (m.size : Int) < Extent.bound) (address : Int) (size : Nat) :
    m.zeroBlock address size =
      if m.Outside address size then .error (.fault (.memoryAccess address size))
      else .ok (m.setBytes address.toNat (List.replicate size 0)) := by
  unfold zeroBlock check
  split
  · rfl
  · rename_i hinside
    simp only [Outside, not_or, Int.not_lt] at hinside
    have hheld : Extent.Held (m.size + 1) size := ⟨by omega, by omega⟩
    rw [Extent.ofInt_of_held (Int.natCast_nonneg size) hheld]
    rfl

/-- A block inside memory consists of the bytes at its addresses in turn. -/
theorem block_eq_map {n : Nat} (h : ¬ m.Outside address n) :
    m.block address n = (List.range n).map fun k ↦ m.byteAt (address.toNat + k) := by
  simp only [Outside, size, not_or, Int.not_lt] at h
  obtain ⟨hlow, hhigh⟩ := h
  have hend : m.blockEnd address n = address.toNat + n := by
    unfold blockEnd
    dsimp only
    split <;> omega
  unfold block
  rw [hend]
  apply List.ext_getElem
  · simp
    omega
  · intro k hk _
    have hk' : k < n := by
      simp at hk
      omega
    have hin : address.toNat + k < m.cells.size := by omega
    simp [byteAt, Array.getD, hin]

theorem length_block {n : Nat} (h : ¬ m.Outside address n) : (m.block address n).length = n := by
  rw [block_eq_map h, List.length_map, List.length_range]

/-! ### Bytes after a store -/

theorem byteAt_setByte_of_ne {stored a : Nat} (byte : UInt8) (h : stored ≠ a) :
    (m.setByte stored byte).byteAt a = m.byteAt a := by
  simp [byteAt, setByte, Array.getElem?_setIfInBounds_ne h]

/-- An address outside a block that is stored keeps its byte. -/
theorem byteAt_setBytes_of_outside {stored a : Nat} (bytes : List UInt8)
    (h : a < stored ∨ stored + bytes.length ≤ a) :
    (m.setBytes stored bytes).byteAt a = m.byteAt a := by
  induction bytes generalizing m stored with
  | nil => rfl
  | cons byte rest ih =>
    rw [List.length_cons] at h
    rw [setBytes, ih (by omega), byteAt_setByte_of_ne byte (by omega)]

theorem byteAt_setByte_self {stored : Nat} (byte : UInt8) (h : stored < m.size) :
    (m.setByte stored byte).byteAt stored = byte := by
  have h' : stored < m.cells.size := h
  simp [byteAt, setByte, h']

/-- An address inside a block that is stored takes the byte that the block has for it. -/
theorem byteAt_setBytes_of_inside {stored k : Nat} (bytes : List UInt8)
    (hroom : stored + bytes.length ≤ m.size) (hk : k < bytes.length) :
    (m.setBytes stored bytes).byteAt (stored + k) = bytes[k] := by
  induction bytes generalizing m stored k with
  | nil => exact absurd hk (Nat.not_lt_zero k)
  | cons byte rest ih =>
    rw [List.length_cons] at hroom hk
    rw [setBytes]
    cases k with
    | zero =>
      show ((m.setByte stored byte).setBytes (stored + 1) rest).byteAt stored = byte
      rw [byteAt_setBytes_of_outside rest (.inl (Nat.lt_add_one stored)),
        byteAt_setByte_self byte (by omega)]
    | succ k =>
      rw [← Nat.add_assoc, Nat.add_right_comm, ih (by rw [size_setByte]; omega) (by omega)]
      rfl

/-! ### Blocks that come back -/

/-- Storing bytes does not move the bounds. -/
theorem outside_setBytes_iff {stored : Nat} {bytes : List UInt8} {size : Int} :
    (m.setBytes stored bytes).Outside address size ↔ m.Outside address size := by
  rw [Outside, Outside, size_setBytes]

/-- Reading a block that was stored yields what was stored. -/
theorem block_setBytes (bytes : List UInt8) (h : ¬ m.Outside address bytes.length) :
    (m.setBytes address.toNat bytes).block address bytes.length = bytes := by
  rw [block_eq_map (mt outside_setBytes_iff.1 h)]
  rw [Outside] at h
  refine List.ext_getElem (by simp) fun k _ hk ↦ ?_
  rw [List.getElem_map, List.getElem_range, byteAt_setBytes_of_inside bytes (by omega) hk]

/-- Two memories of one size with the same bytes are the same. -/
theorem eq_of_byteAt {n : Memory} (hsize : n.size = m.size)
    (h : ∀ a < m.size, n.byteAt a = m.byteAt a) : n = m := by
  refine congrArg Memory.mk (Array.ext hsize fun a ha ha' ↦ ?_)
  have hbyte := h a ha'
  simpa [byteAt, ha, ha'] using hbyte

/-- Storing a block that was read changes nothing. -/
theorem setBytes_block {n : Nat} (h : ¬ m.Outside address n) :
    m.setBytes address.toNat (m.block address n) = m := by
  have hlength := length_block h
  have hmap := block_eq_map h
  rw [Outside] at h
  refine eq_of_byteAt (size_setBytes ..) fun a ha ↦ ?_
  by_cases hinside : address.toNat ≤ a ∧ a < address.toNat + n
  · obtain ⟨k, rfl⟩ := Nat.exists_eq_add_of_le hinside.1
    rw [byteAt_setBytes_of_inside _ (by omega) (by omega)]
    simp only [hmap, List.getElem_map, List.getElem_range]
  · exact byteAt_setBytes_of_outside _ (by omega)

end ChipEight.Memory
