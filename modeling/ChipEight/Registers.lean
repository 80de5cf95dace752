import ChipEight.CallStack
import ChipEight.Nibble

/-!
# Registers

The machine state outside memory and display: sixteen byte registers, of which the last doubles as
the flag; the index register; the program counter; the delay and sound timers; and the call stack.

Only the byte registers are bounded by their type. The index register, the program counter and the
timers are integers, since instructions may carry the first two past the end of memory, where the
next access refuses them.

## Main definitions

* `Registers`: the registers.
* `Registers.advance`, `Registers.skip`, `Registers.jump`: the only ways the program counter moves.
* `Registers.tick`: one tick of the two timers; `Registers.ticks` applies several at once.
-/

namespace ChipEight

/-- The number of a byte register. -/
abbrev Reg := Nibble

/-- The register that reports carries, borrows, shifted-out bits and collisions. -/
def Reg.flag : Reg := Nibble.ofNat 15

/-- The register that an offset jump adds to its address. -/
def Reg.offset : Reg := Nibble.ofNat 0

/-- The register with a given number, if there is one. -/
def Reg.ofInt (index : Int) : Except Failure Reg :=
  match Nibble.ofInt? index with
  | some x => .ok x
  | none => .error (.fault (.noSuchRegister index))

/-- Where programs are loaded and begin. -/
def programStart : Nat := 0x200

/-- The machine state outside memory and display. -/
structure Registers where
  /-- The byte registers. -/
  v : Vector UInt8 16
  /-- The index register, an address. -/
  i : Int
  /-- The program counter. -/
  pc : Int
  /-- The delay timer. -/
  dt : Int
  /-- The sound timer. -/
  st : Int
  /-- The call stack. -/
  stack : CallStack
  deriving DecidableEq, Repr

namespace Registers

/-- The registers at power-on, with a call stack of the given capacity. -/
def initial (capacity : Int) : Registers where
  v := Vector.replicate 16 0
  i := 0
  pc := programStart
  dt := 0
  st := 0
  stack := CallStack.empty capacity

/-- Returns to the registers of power-on. -/
def reset (r : Registers) : Registers :=
  initial r.stack.capacity

/-- The value of a byte register. -/
def get (r : Registers) (x : Reg) : UInt8 :=
  r.v.get x

/-- Stores a byte in a byte register. -/
def put (r : Registers) (x : Reg) (value : UInt8) : Registers :=
  { r with v := r.v.set x value }

/-- Stores an integer in a byte register, modulo 256. -/
def putInt (r : Registers) (x : Reg) (value : Int) : Registers :=
  r.put x (UInt8.ofNat (value % 256).toNat)

/-- Sets the flag register to one or zero. -/
def putFlag (r : Registers) (flag : Bool) : Registers :=
  r.put Reg.flag (if flag then 1 else 0)

/-- The byte registers up to and including one of them. -/
def upTo (r : Registers) (x : Reg) : List UInt8 :=
  r.v.toList.take (x.val + 1)

/-- Stores a row of bytes in the byte registers from one on. -/
def putFrom (r : Registers) (start : Nat) : List UInt8 → Registers
  | [] => r
  | byte :: rest =>
    if h : start < 16 then (r.put ⟨start, h⟩ byte).putFrom (start + 1) rest else r

/-- Moves to the following instruction. -/
def advance (r : Registers) : Registers :=
  { r with pc := r.pc + 2 }

/-- Moves past the following instruction. -/
def skip (r : Registers) : Registers :=
  { r with pc := r.pc + 4 }

/-- Moves to an address. -/
def jump (r : Registers) (address : Int) : Registers :=
  { r with pc := address }

/-- Adds an address to the call stack. -/
def push (r : Registers) (address : Int) : Except Failure Registers := do
  return { r with stack := ← r.stack.push address }

/-- Removes the most recent address from the call stack. -/
def pop (r : Registers) : Except Failure (Int × Registers) := do
  let (address, stack) ← r.stack.pop
  return (address, { r with stack })

/-- A timer after a number of ticks: it counts down and stays at zero, and a timer below zero does
not move. -/
def timerAfter (ticks : Nat) (timer : Int) : Int :=
  if timer > 0 then max 0 (timer - ticks) else timer

/-- Several ticks of the two timers at once. -/
def ticks (r : Registers) (count : Nat) : Registers :=
  { r with dt := timerAfter count r.dt, st := timerAfter count r.st }

/-- One tick of the two timers. -/
def tick (r : Registers) : Registers :=
  r.ticks 1

/-- No ticks change nothing. -/
theorem ticks_zero (r : Registers) : r.ticks 0 = r := by
  have h (t : Int) : timerAfter 0 t = t := by unfold timerAfter; omega
  simp [ticks, h]

/-- Ticks may be applied one after another. -/
theorem ticks_succ (r : Registers) (n : Nat) : r.ticks (n + 1) = (r.ticks n).tick := by
  have h (t : Int) : timerAfter (n + 1) t = timerAfter 1 (timerAfter n t) := by
    unfold timerAfter; omega
  simp [ticks, tick, h]

end Registers

end ChipEight
