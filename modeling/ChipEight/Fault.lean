import ChipEight.Text.Hex

/-!
# Machine faults

A fault is caused by the loaded program and ends its execution; nothing retries it. Faults form a
small hierarchy of kinds: a program that does not fit is a bad memory access, and an overflow and
an underflow are both faults of the call stack. Each fault carries the numbers that caused it, and
its message is computed from them.

## Main definitions

* `Fault`: the faults, by cause.
* `Fault.message`: the text of a fault.
* `FaultKind.lineage`: a kind and the more general kinds it belongs to.
-/

namespace ChipEight

/-- The kinds of machine fault. -/
inductive FaultKind
  | machine
  | memoryAccess
  | programTooLarge
  | registerIndex
  | key
  | stack
  | stackOverflow
  | stackUnderflow
  | unknownOpcode
  deriving DecidableEq, Repr

/-- A kind of fault followed by the more general kinds that it belongs to, up to the kind of all
machine faults. -/
def FaultKind.lineage : FaultKind → List FaultKind
  | .machine => [.machine]
  | .memoryAccess => [.memoryAccess, .machine]
  | .programTooLarge => [.programTooLarge, .memoryAccess, .machine]
  | .registerIndex => [.registerIndex, .machine]
  | .key => [.key, .machine]
  | .stack => [.stack, .machine]
  | .stackOverflow => [.stackOverflow, .stack, .machine]
  | .stackUnderflow => [.stackUnderflow, .stack, .machine]
  | .unknownOpcode => [.unknownOpcode, .machine]

/-- The faults of the machine, by cause. -/
inductive Fault
  /-- An access to `size` bytes at `address` that leaves memory. -/
  | memoryAccess (address size : Int)
  /-- A program of `size` bytes that does not fit in memory from `address`. -/
  | programTooLarge (address size : Int)
  /-- A register index outside the sixteen registers. -/
  | noSuchRegister (index : Int)
  /-- A key number outside the sixteen keys. -/
  | noSuchKey (key : Int)
  /-- An address pushed onto a call stack that already holds `capacity` of them. -/
  | stackOverflow (item capacity : Int)
  /-- A return without a call. -/
  | stackUnderflow
  /-- A word at `address` that is no instruction. -/
  | unknownOpcode (opcode address : Int)
  /-- A fault of which only the kind and a text are known. -/
  | noted (kind : FaultKind) (text : String)
  deriving DecidableEq, Repr

namespace Fault

/-- The kind of a fault. -/
def kind : Fault → FaultKind
  | memoryAccess .. => .memoryAccess
  | programTooLarge .. => .programTooLarge
  | noSuchRegister _ => .registerIndex
  | noSuchKey _ => .key
  | stackOverflow .. => .stackOverflow
  | stackUnderflow => .stackUnderflow
  | unknownOpcode .. => .unknownOpcode
  | noted kind _ => kind

/-- The text of a fault. An access to a single byte does not mention its size. -/
def message : Fault → String
  | memoryAccess address size =>
    if size = 1 then "Memory access out of range at address 0x" ++ Hex.padded 4 address
    else "Memory access out of range for " ++ toString size ++ " bytes at address 0x" ++
      Hex.padded 4 address
  | programTooLarge address size =>
    "Program of " ++ toString size ++ " bytes does not fit in memory from address 0x" ++
      Hex.padded 3 address
  | noSuchRegister index => "Register index " ++ toString index ++ " is out of range (V0-VF)"
  | noSuchKey key => "Key " ++ toString key ++ " is out of range (0x0-0xF)"
  | stackOverflow item capacity =>
    "Stack overflow pushing 0x" ++ Hex.padded 3 item ++ " (depth " ++ toString capacity ++ ")"
  | stackUnderflow => "Stack underflow"
  | unknownOpcode opcode address =>
    "Opcode 0x" ++ Hex.padded 4 opcode ++ " at address 0x" ++ Hex.padded 3 address ++
      " is not a recognised instruction"
  | noted _ text => text

/-- The parts that a fault can carry. -/
inductive Part
  | address
  | size
  | index
  | key
  | opcode
  deriving DecidableEq, Repr

/-- The numbers that a fault carries for those who handle it, by part. -/
def parts : Fault → List (Part × Int)
  | memoryAccess address size => [(.address, address), (.size, size)]
  | programTooLarge address size => [(.address, address), (.size, size)]
  | noSuchRegister index => [(.index, index)]
  | noSuchKey key => [(.key, key)]
  | unknownOpcode opcode address => [(.opcode, opcode), (.address, address)]
  | stackOverflow .. | stackUnderflow | noted .. => []

end Fault

end ChipEight
