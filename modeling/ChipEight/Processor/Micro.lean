import ChipEight.Processor.State
import ChipEight.Trace

/-!
# Micro-operations

What instructions are made of: reading registers and memory, storing into them, drawing, printing a
line. Micro-operations are done one after another on the processor itself. What one of them has
stored or printed stays, also if a later one fails, so it is up to each instruction to make its
checks before it stores anything.

## Main definitions

* `Bench`: a processor at work.
* `Micro`: something done on a bench.
* `Micro.readBlock`, `Micro.writeBlock`, `Micro.push`, `Micro.pop`, `Micro.drawSprite`: the
  micro-operations that may fail.
* `Micro.debug`: prints the line of a trace.
-/

namespace ChipEight

/-- A processor at work, and the lines printed so far. -/
structure Bench where
  /-- The processor as it is. -/
  core : Processor
  /-- The lines printed, in order. -/
  lines : List String

/-- Something done on a bench, which yields a value or fails. If it fails, the bench is left as it
is by then. -/
abbrev Micro (β : Type) := ExceptT Failure (StateM Bench) β

namespace Micro

variable {β : Type}

/-- Does something on a bench. -/
def run (micro : Micro β) (bench : Bench) : Except Failure β × Bench :=
  StateT.run (ExceptT.run micro) bench

/-- The value of a result, or its failure. -/
def ofResult (result : Except Failure β) : Micro β :=
  match result with
  | .ok value => return value
  | .error failure => throw failure

/-! ### The processor -/

/-- The processor as it is. -/
def core : Micro Processor := do
  return (← get).core

/-- Changes the processor. -/
def change (f : Processor → Processor) : Micro Unit :=
  modify fun bench ↦ { bench with core := f bench.core }

/-- The registers as they are. -/
def registers : Micro Registers := do
  return (← core).registers

/-- Changes the registers. -/
def changeRegisters (f : Registers → Registers) : Micro Unit :=
  change fun s ↦ s.withRegisters (f s.registers)

/-- The value of a byte register. -/
def reg (x : Reg) : Micro UInt8 := do
  return (← core).reg x

/-- Stores a byte in a byte register. -/
def putReg (x : Reg) (value : UInt8) : Micro Unit :=
  change fun s ↦ s.putReg x value

/-- Sets the flag register to one or zero. -/
def putFlag (flag : Bool) : Micro Unit :=
  changeRegisters fun r ↦ r.putFlag flag

/-- Moves to an address. -/
def jump (address : Int) : Micro Unit :=
  changeRegisters fun r ↦ r.jump address

/-- Points the index register at an address. -/
def pointAt (address : Int) : Micro Unit :=
  changeRegisters fun r ↦ { r with i := address }

/-- Whether the key that a register names is held. -/
def isHeld (x : Reg) : Micro Bool := do
  let s ← core
  return s.keypad.isDown (s.namedKey x)

/-- Notes whether an instruction is waiting for a key. -/
def putWaiting (waiting : Bool) : Micro Unit :=
  change fun s ↦ { s with waiting }

/-- The next random byte. -/
def randomByte : Micro UInt8 := do
  let (byte, random) := (← core).random.nextByte
  change fun s ↦ { s with random }
  return byte

/-! ### Memory, stack and display -/

/-- The bytes of a block of memory. -/
def readBlock (address size : Int) : Micro (List UInt8) := do
  ofResult ((← core).memory.readBlock address size)

/-- Stores a block of bytes in memory, once its place has been checked. -/
def writeBlock (address : Int) (block : List UInt8) : Micro Unit := do
  ofResult ((← core).memory.check address block.length)
  change fun s ↦ { s with memory := s.memory.setBytes address.toNat block }

/-- Adds an address to the call stack, once it has been checked that there is room. -/
def push (address : Int) : Micro Unit := do
  ofResult ((← registers).stack.checkRoom address)
  changeRegisters fun r ↦ { r with stack := r.stack.add address }

/-- Removes the most recent address from the call stack. -/
def pop : Micro Int := do
  let address ← ofResult (← registers).stack.top
  changeRegisters fun r ↦ { r with stack := r.stack.drop }
  return address

/-- Draws a sprite and tells whether a lit pixel was flipped off. Pixels flipped in front of a
failure stay flipped. -/
def drawSprite (x y : Int) (sprite : Sprite) : Micro Bool := do
  let (result, display) := (← core).display.drawSprite x y sprite
  change fun s ↦ { s with display }
  ofResult result

/-! ### Traces -/

/-- Prints the line for an instruction, with the registers and the opcode as they are, if execution
is traced. -/
def debug (live : Bool) (instruction : String) : Micro Unit := do
  if live then
    let s ← core
    let line := Trace.line s.registers s.opcode instruction
    modify fun bench ↦ { bench with lines := bench.lines ++ [line] }

end Micro

end ChipEight
