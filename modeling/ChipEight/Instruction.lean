import ChipEight.Registers
import ChipEight.Text.Hex

/-!
# Instructions

The thirty-four instructions of the machine. An instruction is written as one word of sixteen bits.
Its first nibble names a family; in some families the last nibble or the last byte picks the
instruction. The operands always lie in the same places: the registers in the second and third
nibble, a byte in the last two nibbles, an address in the last three.

Decoding is partial: a word that matches no pattern is no instruction, and what becomes of it is up
to the processor.

## Main definitions

* `Instruction`: the instructions with their operands.
* `Instruction.ofWord?`: the instruction that a word stands for.
* `Instruction.pattern`: the four nibbles of an instruction's words.
* `Instruction.assembly`: an operation and its operands in assembly language.
-/

namespace ChipEight

/-- The addresses that an instruction can name, twelve bits wide. -/
abbrev Address := Fin 4096

/-- The lowest twelve bits of a number. -/
def Address.ofNat (n : Nat) : Address :=
  ⟨n % 4096, Nat.mod_lt n (Nat.succ_pos 4095)⟩

/-- The instructions with their operands. -/
inductive Instruction
  /-- Darkens the display. -/
  | clearDisplay
  /-- Returns from a call. -/
  | callReturn
  /-- Jumps to an address. -/
  | jump (address : Address)
  /-- Calls the routine at an address. -/
  | call (address : Address)
  /-- Skips if a register equals a byte. -/
  | skipIfByte (x : Reg) (byte : UInt8)
  /-- Skips unless a register equals a byte. -/
  | skipUnlessByte (x : Reg) (byte : UInt8)
  /-- Skips if two registers are equal. -/
  | skipIfEqual (x y : Reg)
  /-- Stores a byte in a register. -/
  | loadByte (x : Reg) (byte : UInt8)
  /-- Adds a byte to a register without reporting a carry. -/
  | addByte (x : Reg) (byte : UInt8)
  /-- Copies a register. -/
  | copy (x y : Reg)
  /-- Bitwise disjunction. -/
  | or (x y : Reg)
  /-- Bitwise conjunction. -/
  | and (x y : Reg)
  /-- Bitwise exclusive disjunction. -/
  | xor (x y : Reg)
  /-- Sum, reporting a carry. -/
  | add (x y : Reg)
  /-- Difference, reporting the absence of a borrow. -/
  | subtract (x y : Reg)
  /-- Half, reporting the bit shifted out. -/
  | shiftRight (x : Reg)
  /-- Difference the other way round, reporting the absence of a borrow. -/
  | subtractFrom (x y : Reg)
  /-- Double, reporting the bit shifted out. -/
  | shiftLeft (x : Reg)
  /-- Skips unless two registers are equal. -/
  | skipUnlessEqual (x y : Reg)
  /-- Points the index register at an address. -/
  | pointAt (address : Address)
  /-- Jumps to an address plus the first register. -/
  | jumpOffset (address : Address)
  /-- Stores a random byte under a mask. -/
  | random (x : Reg) (mask : UInt8)
  /-- Draws the sprite of some rows at the index register, reporting a collision. -/
  | draw (x y : Reg) (rows : Nibble)
  /-- Skips if a key is held. -/
  | skipIfHeld (x : Reg)
  /-- Skips unless a key is held. -/
  | skipUnlessHeld (x : Reg)
  /-- Reads the delay timer. -/
  | readDelay (x : Reg)
  /-- Waits for a key to be pressed. -/
  | awaitKey (x : Reg)
  /-- Sets the delay timer. -/
  | setDelay (x : Reg)
  /-- Sets the sound timer. -/
  | setSound (x : Reg)
  /-- Adds a register to the index register. -/
  | addToIndex (x : Reg)
  /-- Points the index register at the glyph of a register's value. -/
  | pointAtGlyph (x : Reg)
  /-- Stores the three decimal digits of a register. -/
  | storeDecimal (x : Reg)
  /-- Stores the registers up to one of them. -/
  | storeUpTo (x : Reg)
  /-- Loads the registers up to one of them. -/
  | loadUpTo (x : Reg)
  deriving DecidableEq, Repr

namespace Instruction

/-! ### Decoding -/

/-- The instruction that a word of sixteen bits stands for; none beyond sixteen bits. -/
def ofWord? (word : Nat) : Option Instruction :=
  let x : Reg := Nibble.ofNat (word / 256)
  let y : Reg := Nibble.ofNat (word / 16)
  let n : Nibble := Nibble.ofNat word
  let kk : UInt8 := UInt8.ofNat word
  let nnn : Address := Address.ofNat word
  match word / 4096 with
  | 0x0 =>
    match word with
    | 0x00E0 => some clearDisplay
    | 0x00EE => some callReturn
    | _ => none
  | 0x1 => some (jump nnn)
  | 0x2 => some (call nnn)
  | 0x3 => some (skipIfByte x kk)
  | 0x4 => some (skipUnlessByte x kk)
  | 0x5 => if word % 16 = 0 then some (skipIfEqual x y) else none
  | 0x6 => some (loadByte x kk)
  | 0x7 => some (addByte x kk)
  | 0x8 =>
    match word % 16 with
    | 0x0 => some (copy x y)
    | 0x1 => some (or x y)
    | 0x2 => some (and x y)
    | 0x3 => some (xor x y)
    | 0x4 => some (add x y)
    | 0x5 => some (subtract x y)
    | 0x6 => some (shiftRight x)
    | 0x7 => some (subtractFrom x y)
    | 0xE => some (shiftLeft x)
    | _ => none
  | 0x9 => if word % 16 = 0 then some (skipUnlessEqual x y) else none
  | 0xA => some (pointAt nnn)
  | 0xB => some (jumpOffset nnn)
  | 0xC => some (random x kk)
  | 0xD => some (draw x y n)
  | 0xE =>
    match word % 256 with
    | 0x9E => some (skipIfHeld x)
    | 0xA1 => some (skipUnlessHeld x)
    | _ => none
  | 0xF =>
    match word % 256 with
    | 0x07 => some (readDelay x)
    | 0x0A => some (awaitKey x)
    | 0x15 => some (setDelay x)
    | 0x18 => some (setSound x)
    | 0x1E => some (addToIndex x)
    | 0x29 => some (pointAtGlyph x)
    | 0x33 => some (storeDecimal x)
    | 0x55 => some (storeUpTo x)
    | 0x65 => some (loadUpTo x)
    | _ => none
  | _ => none

/-- The instruction that an integer stands for as an opcode; none below zero. -/
def ofOpcode? (opcode : Int) : Option Instruction :=
  if opcode < 0 then none else ofWord? opcode.toNat

/-- The instruction that an opcode found at an address stands for, or the fault it causes there. -/
def decodeAt (opcode address : Int) : Except Failure Instruction :=
  match ofOpcode? opcode with
  | some instruction => .ok instruction
  | none => .error (.fault (.unknownOpcode opcode address))

/-! ### Patterns -/

/-- The four nibbles of the words of an instruction: digits where they are fixed, `x` and `y` for
registers, `k` for the nibbles of a byte, and `n` for those of an address or a number of rows. -/
def pattern : Instruction → String
  | clearDisplay => "00E0"
  | callReturn => "00EE"
  | jump _ => "1nnn"
  | call _ => "2nnn"
  | skipIfByte .. => "3xkk"
  | skipUnlessByte .. => "4xkk"
  | skipIfEqual .. => "5xy0"
  | loadByte .. => "6xkk"
  | addByte .. => "7xkk"
  | copy .. => "8xy0"
  | or .. => "8xy1"
  | and .. => "8xy2"
  | xor .. => "8xy3"
  | add .. => "8xy4"
  | subtract .. => "8xy5"
  | shiftRight _ => "8xy6"
  | subtractFrom .. => "8xy7"
  | shiftLeft _ => "8xyE"
  | skipUnlessEqual .. => "9xy0"
  | pointAt _ => "Annn"
  | jumpOffset _ => "Bnnn"
  | random .. => "Cxkk"
  | draw .. => "Dxyn"
  | skipIfHeld _ => "Ex9E"
  | skipUnlessHeld _ => "ExA1"
  | readDelay _ => "Fx07"
  | awaitKey _ => "Fx0A"
  | setDelay _ => "Fx15"
  | setSound _ => "Fx18"
  | addToIndex _ => "Fx1E"
  | pointAtGlyph _ => "Fx29"
  | storeDecimal _ => "Fx33"
  | storeUpTo _ => "Fx55"
  | loadUpTo _ => "Fx65"

/-! ### Assembly language -/

/-- The text of a register as an operand. -/
def regText (x : Reg) : String :=
  "V" ++ Hex.padded 1 x.val

/-- The text of a byte as an operand. -/
def byteText (byte : UInt8) : String :=
  "0x" ++ Hex.byte byte

/-- The text of an address as an operand. -/
def addressText (address : Address) : String :=
  "0x" ++ Hex.padded 3 address.val

/-- An operation and its operands. -/
def assembly (operation : String) (operands : List String) : String :=
  operation ++ " " ++ ", ".intercalate operands

end Instruction

end ChipEight
