import ChipEight.Registers
import ChipEight.Text.Hex

/-!
# Traces of the registers

One line of text for the state in front of an instruction: the byte registers from the last to the
first as one hexadecimal number, the index register, the two timers, the program counter, the
opcode and the instruction in assembly language. A crash dump adds the call stack on a second
line, the least recent address first.

## Main definitions

* `Trace.line`: the line in front of an instruction.
* `Trace.dump`: the line and the call stack.
-/

namespace ChipEight.Trace

/-- The byte registers from the last to the first as one hexadecimal number. -/
def bytesText (v : Vector UInt8 16) : String :=
  Hex.bytes v.toList.reverse

/-- The line for registers in front of an instruction. -/
def line (r : Registers) (opcode : Int) (instruction : String) : String :=
  "V: 0x" ++ bytesText r.v ++ " I: 0x" ++ Hex.padded 4 r.i ++ " DT: 0x" ++ Hex.padded 2 r.dt ++
    " ST: 0x" ++ Hex.padded 2 r.st ++ " PC: 0x" ++ Hex.padded 3 r.pc ++ " OP: 0x" ++
    Hex.padded 4 opcode ++ " IN: " ++ instruction

/-- The text of the addresses on a call stack, the least recent first. -/
def stackText (stack : CallStack) : String :=
  if stack.frames.isEmpty then " (Empty)"
  else String.join (stack.items.map fun address ↦ " 0x" ++ Hex.padded 3 address)

/-- The line for registers in front of an instruction, and the call stack on a line after it. -/
def dump (r : Registers) (opcode : Int) (instruction : String) : String :=
  line r opcode instruction ++ "\nStack:" ++ stackText r.stack

/-- What stands for the instruction in a crash dump. -/
def unknownText : String := "???"

end ChipEight.Trace
