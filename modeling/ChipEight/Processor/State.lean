import ChipEight.Display
import ChipEight.Font
import ChipEight.Keypad
import ChipEight.Memory
import ChipEight.Random.Twister
import ChipEight.Registers

/-!
# The state of the processor

The processor together with what it works on: memory, the registers, the display, the keypad and a
source of random bytes. Two things are its own: the word that it fetched last, and whether an
instruction is waiting for a key.

## Main definitions

* `Processor`: the state.
* `Processor.initial`: the state at power-on.
-/

namespace ChipEight

/-- The state of the processor and of what it works on. -/
structure Processor where
  /-- Memory. -/
  memory : Memory
  /-- The registers. -/
  registers : Registers
  /-- The display. -/
  display : Display
  /-- The keypad. -/
  keypad : Keypad
  /-- The source of random bytes. -/
  random : Twister
  /-- The word fetched last. -/
  opcode : Nat
  /-- Whether an instruction is waiting for a key. -/
  waiting : Bool
  deriving DecidableEq

namespace Processor

/-- The processor of a machine at power-on, with the font loaded. -/
def initial (random : Twister) : Processor where
  memory := (Memory.zeroed 4096).setBytes Font.address Font.glyphs
  registers := Registers.initial CallStack.usualCapacity
  display := Display.usual
  keypad := Keypad.released
  random := random
  opcode := 0
  waiting := false

/-- Forgets the current instruction and a wait for a key. -/
def forget (s : Processor) : Processor :=
  { s with opcode := 0, waiting := false }

/-- The value of a byte register. -/
def reg (s : Processor) (x : Reg) : UInt8 :=
  s.registers.get x

/-- The key that a register names by its low nibble. -/
def namedKey (s : Processor) (x : Reg) : Key :=
  Nibble.ofNat (s.reg x).toNat

/-- The state with other registers. -/
def withRegisters (s : Processor) (registers : Registers) : Processor :=
  { s with registers }

/-- The state with a byte register stored. -/
def putReg (s : Processor) (x : Reg) (value : UInt8) : Processor :=
  s.withRegisters (s.registers.put x value)

end Processor

end ChipEight
