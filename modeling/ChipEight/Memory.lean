import ChipEight.Extent

/-!
# Memory

A block of bytes, every access to which is checked against its bounds before anything is read or
written. Addresses and sizes are integers, so that an address below zero and one past the end are
refused alike; nothing wraps.

An access is to `size` bytes from an address. It is refused when the address is below zero or when
the access ends past the last byte. The check alone does not refuse a size below zero: reading
back such a block takes the bytes from the address up to the end that the size names, where an end
below zero counts from the end of memory.

## Main definitions

* `Memory.check`: the bounds check that every access makes first.
* `Memory.read`, `Memory.readBlock`, `Memory.write`, `Memory.writeBlock`, `Memory.zeroBlock`: the
  accesses.
-/

namespace ChipEight

/-- A block of bytes. -/
structure Memory where
  /-- The bytes by address. -/
  cells : Array UInt8
  deriving DecidableEq, Repr

namespace Memory

/-- The number of bytes. -/
def size (m : Memory) : Nat :=
  m.cells.size

/-- Zeroed memory of a given size. -/
def zeroed (size : Nat) : Memory :=
  ⟨Array.replicate size 0⟩

/-- Zeroed memory of some size, on a host with some limit. A size that is no extent there fails. -/
def create (limit size : Int) : Except Failure Memory := do
  return zeroed (← Extent.ofInt limit size)

/-- The byte at an address, zero outside memory. -/
def byteAt (m : Memory) (address : Nat) : UInt8 :=
  m.cells.getD address 0

/-! ### The bounds check -/

/-- Whether an access to `size` bytes from `address` leaves memory. -/
def Outside (m : Memory) (address size : Int) : Prop :=
  address < 0 ∨ address + size > m.size

instance (m : Memory) (address size : Int) : Decidable (m.Outside address size) :=
  inferInstanceAs (Decidable (_ ∨ _))

/-- Refuses an access that leaves memory. -/
def check (m : Memory) (address size : Int) : Except Failure Unit :=
  if m.Outside address size then .error (.fault (.memoryAccess address size)) else .ok ()

/-! ### Reading -/

/-- The byte at an address. -/
def read (m : Memory) (address : Int) : Except Failure UInt8 := do
  m.check address 1
  return m.byteAt address.toNat

/-- The end of a block, where an end below zero counts from the end of memory. -/
def blockEnd (m : Memory) (address size : Int) : Nat :=
  let stop := address + size
  (if stop < 0 then stop + m.size else stop).toNat

/-- The bytes of a block. -/
def readBlock (m : Memory) (address size : Int) : Except Failure (List UInt8) := do
  m.check address size
  return (m.cells.extract address.toNat (m.blockEnd address size)).toList

/-! ### Writing -/

/-- Memory with a byte stored at an address that it has. -/
def setByte (m : Memory) (address : Nat) (byte : UInt8) : Memory :=
  ⟨m.cells.setIfInBounds address byte⟩

/-- Stores a value, which must be a byte, at an address. -/
def write (m : Memory) (address value : Int) : Except Failure Memory := do
  m.check address 1
  if 0 ≤ value ∧ value < 256 then return m.setByte address.toNat (UInt8.ofNat value.toNat)
  else throw (.notAByte value)

/-- Memory with a row of bytes stored from an address on. -/
def setBytes (m : Memory) (address : Nat) : List UInt8 → Memory
  | [] => m
  | byte :: rest => (m.setByte address byte).setBytes (address + 1) rest

/-- Stores a block of bytes from an address on. -/
def writeBlock (m : Memory) (address : Int) (block : List UInt8) : Except Failure Memory := do
  m.check address block.length
  return m.setBytes address.toNat block

/-- Zeroes a block of bytes. A size below zero fails once it has passed the bounds check; a host
that holds memory holds no less than a block of its size. -/
def zeroBlock (m : Memory) (address size : Int) : Except Failure Memory := do
  m.check address size
  let count ← Extent.ofInt (m.size + 1) size
  return m.setBytes address.toNat (List.replicate count 0)

/-- Memory with every byte zeroed. -/
def clear (m : Memory) : Memory :=
  zeroed m.size

/-! ### The size -/

@[simp] theorem size_setByte (m : Memory) (address : Nat) (byte : UInt8) :
    (m.setByte address byte).size = m.size := by
  simp [setByte, size]

@[simp] theorem size_setBytes (m : Memory) (address : Nat) (block : List UInt8) :
    (m.setBytes address block).size = m.size := by
  induction block generalizing m address with
  | nil => rfl
  | cons byte rest ih => rw [setBytes, ih, size_setByte]

@[simp] theorem size_clear (m : Memory) : m.clear.size = m.size := by
  simp [clear, zeroed, size]

end Memory

end ChipEight
