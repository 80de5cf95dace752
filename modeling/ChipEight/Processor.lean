import ChipEight.Instruction
import ChipEight.Processor.Micro

/-!
# The processor

The processor fetches the word at the program counter, decodes it and executes the instruction.
Execution does not move the program counter past the instruction: it yields an outcome, and the
step moves the program counter by it, in one place. Jumps and calls set the program counter
themselves and say so by their outcome.

Each instruction is executed on the processor itself, by micro-operations. A step that fails keeps
what was stored by then, the word just fetched among it. If execution is traced, an instruction
prints its line before it does anything else.

## Main definitions

* `Processor.handle`: executes an instruction.
* `Processor.cycle`: fetches, decodes and executes.
* `Processor.step`, `Processor.stepWith`: one step, and one step that may be traced.
-/

namespace ChipEight

/-- How control goes on after an instruction. -/
inductive Outcome
  /-- On to the following instruction. -/
  | next
  /-- Past the following instruction. -/
  | skip
  /-- The instruction has set the program counter. -/
  | jump
  /-- The same instruction again. -/
  | wait
  deriving DecidableEq, Repr

namespace Processor

open Instruction (assembly regText byteText addressText)

/-! ### Execution -/

/-- The three decimal digits of a byte, the hundreds first. -/
def decimalDigits (value : UInt8) : List UInt8 :=
  [value / 100, value / 10 % 10, value % 10]

/-- An integer as a byte, which it must be. -/
def byteOf (n : Int) : Except Failure UInt8 :=
  if 0 ≤ n ∧ n < 256 then .ok (UInt8.ofNat n.toNat) else .error (.notAByte n)

/-- Skips if a condition holds. -/
def skipIf (condition : Bool) : Outcome :=
  if condition then .skip else .next

/-- Stores a difference in a byte register and sets the flag unless it borrows. The flag is set
last, so that it wins if the register is the flag register. -/
def subtractInto (x : Reg) (left right : UInt8) : Micro Outcome := do
  Micro.putReg x (left - right)
  Micro.putFlag (left ≥ right)
  return .next

/-- Executes an instruction, short of moving the program counter past it. -/
def handle (live : Bool) : Instruction → Micro Outcome
  | .clearDisplay => do
    Micro.debug live "CLS"
    Micro.change fun s ↦ { s with display := s.display.clear }
    return .next
  | .callReturn => do
    Micro.debug live "RET"
    Micro.jump (← Micro.pop)
    return .next
  | .jump a => do
    Micro.debug live (assembly "JP" [addressText a])
    Micro.jump a.val
    return .jump
  | .call a => do
    Micro.debug live (assembly "CALL" [addressText a])
    Micro.push (← Micro.registers).pc
    Micro.jump a.val
    return .jump
  | .skipIfByte x kk => do
    Micro.debug live (assembly "SE" [regText x, byteText kk])
    return skipIf ((← Micro.reg x) == kk)
  | .skipUnlessByte x kk => do
    Micro.debug live (assembly "SNE" [regText x, byteText kk])
    return skipIf ((← Micro.reg x) != kk)
  | .skipIfEqual x y => do
    Micro.debug live (assembly "SE" [regText x, regText y])
    return skipIf ((← Micro.reg x) == (← Micro.reg y))
  | .loadByte x kk => do
    Micro.debug live (assembly "LD" [regText x, byteText kk])
    Micro.putReg x kk
    return .next
  | .addByte x kk => do
    Micro.debug live (assembly "ADD" [regText x, byteText kk])
    Micro.putReg x ((← Micro.reg x) + kk)
    return .next
  | .copy x y => do
    Micro.debug live (assembly "LD" [regText x, regText y])
    Micro.putReg x (← Micro.reg y)
    return .next
  | .or x y => do
    Micro.debug live (assembly "OR" [regText x, regText y])
    Micro.putReg x ((← Micro.reg x) ||| (← Micro.reg y))
    return .next
  | .and x y => do
    Micro.debug live (assembly "AND" [regText x, regText y])
    Micro.putReg x ((← Micro.reg x) &&& (← Micro.reg y))
    return .next
  | .xor x y => do
    Micro.debug live (assembly "XOR" [regText x, regText y])
    Micro.putReg x ((← Micro.reg x) ^^^ (← Micro.reg y))
    return .next
  | .add x y => do
    Micro.debug live (assembly "ADD" [regText x, regText y])
    let left ← Micro.reg x
    let right ← Micro.reg y
    Micro.putReg x (left + right)
    Micro.putFlag (left.toNat + right.toNat > 255)
    return .next
  | .subtract x y => do
    Micro.debug live (assembly "SUB" [regText x, regText y])
    subtractInto x (← Micro.reg x) (← Micro.reg y)
  | .shiftRight x => do
    Micro.debug live (assembly "SHR" [regText x])
    let value ← Micro.reg x
    Micro.putReg x (value >>> 1)
    Micro.putFlag (value % 2 == 1)
    return .next
  | .subtractFrom x y => do
    Micro.debug live (assembly "SUBN" [regText x, regText y])
    subtractInto x (← Micro.reg y) (← Micro.reg x)
  | .shiftLeft x => do
    Micro.debug live (assembly "SHL" [regText x])
    let value ← Micro.reg x
    Micro.putReg x (value <<< 1)
    Micro.putFlag (value ≥ 128)
    return .next
  | .skipUnlessEqual x y => do
    Micro.debug live (assembly "SNE" [regText x, regText y])
    return skipIf ((← Micro.reg x) != (← Micro.reg y))
  | .pointAt a => do
    Micro.debug live (assembly "LD" ["I", addressText a])
    Micro.pointAt a.val
    return .next
  | .jumpOffset a => do
    Micro.debug live (assembly "JP" ["V0", addressText a])
    Micro.jump (a.val + (← Micro.reg Reg.offset).toNat)
    return .jump
  | .random x mask => do
    Micro.debug live (assembly "RND" [regText x, byteText mask])
    Micro.putReg x ((← Micro.randomByte) &&& mask)
    return .next
  | .draw x y n => do
    Micro.debug live (assembly "DRW" [regText x, regText y, "0x" ++ Hex.padded 1 n.val])
    let sprite ← Micro.readBlock (← Micro.registers).i n.val
    Micro.putFlag (← Micro.drawSprite (← Micro.reg x).toNat (← Micro.reg y).toNat sprite)
    return .next
  | .skipIfHeld x => do
    Micro.debug live (assembly "SKP" [regText x])
    return skipIf (← Micro.isHeld x)
  | .skipUnlessHeld x => do
    Micro.debug live (assembly "SKNP" [regText x])
    return skipIf (!(← Micro.isHeld x))
  | .readDelay x => do
    Micro.debug live (assembly "LD" [regText x, "DT"])
    Micro.putReg x (← Micro.ofResult (byteOf (← Micro.registers).dt))
    return .next
  | .awaitKey x => do
    Micro.debug live (assembly "LD" [regText x, "K"])
    -- The keys that are held when the wait begins do not end it.
    if !(← Micro.core).waiting then
      Micro.change fun s ↦ { s with keypad := s.keypad.latch }
      Micro.putWaiting true
    match (← Micro.core).keypad.firstFresh? with
    | none => return .wait
    | some key =>
      Micro.putWaiting false
      Micro.putReg x (UInt8.ofNat key.val)
      return .next
  | .setDelay x => do
    Micro.debug live (assembly "LD" ["DT", regText x])
    let value ← Micro.reg x
    Micro.changeRegisters fun r ↦ { r with dt := value.toNat }
    return .next
  | .setSound x => do
    Micro.debug live (assembly "LD" ["ST", regText x])
    let value ← Micro.reg x
    Micro.changeRegisters fun r ↦ { r with st := value.toNat }
    return .next
  | .addToIndex x => do
    Micro.debug live (assembly "ADD" ["I", regText x])
    Micro.pointAt (((← Micro.registers).i + (← Micro.reg x).toNat) % 0x10000)
    return .next
  | .pointAtGlyph x => do
    Micro.debug live (assembly "LD" ["F", regText x])
    Micro.pointAt (Font.address + Font.glyphSize * (← Micro.reg x).toNat)
    return .next
  | .storeDecimal x => do
    Micro.debug live (assembly "LD" ["B", regText x])
    Micro.writeBlock (← Micro.registers).i (decimalDigits (← Micro.reg x))
    return .next
  | .storeUpTo x => do
    Micro.debug live (assembly "LD" ["[I]", regText x])
    let r ← Micro.registers
    Micro.writeBlock r.i (r.upTo x)
    return .next
  | .loadUpTo x => do
    Micro.debug live (assembly "LD" [regText x, "[I]"])
    let block ← Micro.readBlock (← Micro.registers).i (x.val + 1)
    Micro.changeRegisters fun r ↦ r.putFrom 0 block
    return .next

/-! ### Steps -/

/-- Moves the program counter by an outcome. -/
def settle (s : Processor) : Outcome → Processor
  | .next => s.withRegisters s.registers.advance
  | .skip => s.withRegisters s.registers.skip
  | .jump | .wait => s

/-- The number that a row of bytes stands for, the most significant first. -/
def ofBytes (bytes : List UInt8) : Nat :=
  bytes.foldl (fun word byte ↦ 256 * word + byte.toNat) 0

/-- The two bytes of a word, the most significant first. A number beyond sixteen bits is no word. -/
def wordBytes (word : Int) : Except Failure (List UInt8) :=
  if 0 ≤ word ∧ word < 0x10000 then
    .ok [UInt8.ofNat (word.toNat / 256), UInt8.ofNat word.toNat]
  else .error .tooLarge

/-- The state with a word stored at the program counter. -/
def putWord (s : Processor) (word : Int) : Except Failure Processor := do
  let bytes ← wordBytes word
  return { s with memory := ← s.memory.writeBlock s.registers.pc bytes }

/-- The word at the program counter. -/
def fetch (s : Processor) : Except Failure Nat := do
  return ofBytes (← s.memory.readBlock s.registers.pc 2)

/-- The instruction that a word at the program counter stands for. -/
def decode (s : Processor) (word : Nat) : Except Failure Instruction :=
  Instruction.decodeAt word s.registers.pc

/-- Fetches, decodes and executes one instruction, and moves the program counter by its outcome. -/
def cycle (live : Bool) : Micro Outcome := do
  let word ← Micro.ofResult (← Micro.core).fetch
  Micro.change fun s ↦ { s with opcode := word }
  let instruction ← Micro.ofResult ((← Micro.core).decode word)
  let outcome ← handle live instruction
  Micro.change fun s ↦ s.settle outcome
  return outcome

/-- One step, which may be traced: its result, the state after it and the lines printed. -/
def stepWith (live : Bool) (s : Processor) : Except Failure Outcome × Bench :=
  (cycle live).run ⟨s, []⟩

/-- One step: its result and the state after it. -/
def step (s : Processor) : Except Failure Outcome × Processor :=
  let (result, bench) := s.stepWith false
  (result, bench.core)

end Processor

end ChipEight
