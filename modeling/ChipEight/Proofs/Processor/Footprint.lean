import ChipEight.Proofs.Processor.Step

/-!
# What an instruction can change

The state after an instruction, component by component. Each component but the byte registers is
written here as a function of the state before and of the instruction, and the branches of that
function are all the instructions that touch it: two store to memory, two change the call stack,
three the index register, and so on. `footprint_of_execute` proves the whole table by one analysis
of the thirty-four instructions. What a step preserves is then read off the table, without looking
at execution again.
-/

namespace ChipEight

/-- How far an outcome moves the program counter. -/
def Outcome.stride : Outcome → Int
  | .next => 2
  | .skip => 4
  | .jump | .wait => 0

namespace Processor

/-! ### The components -/

/-- The bytes that an instruction stores at the index register. -/
def storedBlock (s : Processor) : Instruction → List UInt8
  | .storeDecimal x => decimalDigits (s.reg x)
  | .storeUpTo x => s.registers.upTo x
  | _ => []

/-- The call stack after an instruction. -/
def nextStack (s : Processor) : Instruction → CallStack
  | .call _ => { s.registers.stack with frames := s.registers.pc :: s.registers.stack.frames }
  | .callReturn => { s.registers.stack with frames := s.registers.stack.frames.tail }
  | _ => s.registers.stack

/-- The index register after an instruction. -/
def nextIndex (s : Processor) : Instruction → Int
  | .pointAt a => a.val
  | .addToIndex x => (s.registers.i + (s.reg x).toNat) % 0x10000
  | .pointAtGlyph x => Font.address + Font.glyphSize * (s.reg x).toNat
  | _ => s.registers.i

/-- The delay timer after an instruction. -/
def nextDelay (s : Processor) : Instruction → Int
  | .setDelay x => (s.reg x).toNat
  | _ => s.registers.dt

/-- The sound timer after an instruction. -/
def nextSound (s : Processor) : Instruction → Int
  | .setSound x => (s.reg x).toNat
  | _ => s.registers.st

/-- The program counter after an instruction, before the outcome moves it. A return goes to the
most recent address on the call stack. -/
def target (s : Processor) : Instruction → Int
  | .jump a | .call a => a.val
  | .jumpOffset a => a.val + (s.reg Reg.offset).toNat
  | .callReturn => s.registers.stack.frames.headD 0
  | _ => s.registers.pc

/-- The display after an instruction. -/
def nextDisplay (s : Processor) : Instruction → Display
  | .clearDisplay => s.display.clear
  | .draw x y rows =>
    (s.display.drawn (s.reg x).toNat (s.reg y).toNat
      (s.memory.block s.registers.i rows.val)).2
  | _ => s.display

/-- The keypad that a wait for a key looks at: the held keys are marked when the wait begins. -/
def watched (s : Processor) : Keypad :=
  if s.waiting then s.keypad else s.keypad.latch

/-- The keypad after an instruction. -/
def nextKeypad (s : Processor) : Instruction → Keypad
  | .awaitKey _ => s.watched
  | _ => s.keypad

/-- Whether an instruction leaves a wait for a key behind. -/
def nextWaiting (s : Processor) : Instruction → Bool
  | .awaitKey _ => s.watched.firstFresh?.isNone
  | _ => s.waiting

/-- The source of random bytes after an instruction. -/
def nextRandom (s : Processor) : Instruction → Twister
  | .random _ _ => s.random.nextByte.2
  | _ => s.random

/-- The outcome of an instruction. -/
def outcome (s : Processor) : Instruction → Outcome
  | .jump _ | .call _ | .jumpOffset _ => .jump
  | .skipIfByte x kk => if s.reg x == kk then .skip else .next
  | .skipUnlessByte x kk => if s.reg x != kk then .skip else .next
  | .skipIfEqual x y => if s.reg x == s.reg y then .skip else .next
  | .skipUnlessEqual x y => if s.reg x != s.reg y then .skip else .next
  | .skipIfHeld x => if s.keypad.isDown (s.namedKey x) then .skip else .next
  | .skipUnlessHeld x => if !s.keypad.isDown (s.namedKey x) then .skip else .next
  | .awaitKey _ => if s.watched.firstFresh?.isNone then .wait else .next
  | _ => .next

/-! ### The table -/

/-- What an instruction has done to each component but the byte registers. -/
structure Footprint (s : Processor) (i : Instruction) (o : Outcome) (t : Processor) : Prop where
  outcome : o = s.outcome i
  memory : t.memory = s.memory.setBytes s.registers.i.toNat (s.storedBlock i)
  stack : t.registers.stack = s.nextStack i
  index : t.registers.i = s.nextIndex i
  delay : t.registers.dt = s.nextDelay i
  sound : t.registers.st = s.nextSound i
  counter : t.registers.pc = s.target i
  display : t.display = s.nextDisplay i
  keypad : t.keypad = s.nextKeypad i
  waiting : t.waiting = s.nextWaiting i
  random : t.random = s.nextRandom i
  opcode : t.opcode = s.opcode

/-- Loading a row of registers touches the byte registers only. -/
theorem putFrom_eq (r : Registers) (start : Nat) (bytes : List UInt8) :
    r.putFrom start bytes = { r with v := (r.putFrom start bytes).v } := by
  induction bytes generalizing r start with
  | nil => rfl
  | cons byte rest ih =>
    unfold Registers.putFrom
    split
    · rw [ih]
      rfl
    · rfl

/-- The wait for a key, by the key that ends it. -/
theorem awaitKey_eq (s : Processor) (x : Reg) :
    s.awaitKey x = match s.watched.firstFresh? with
      | none => (.wait, { s with keypad := s.watched, waiting := true })
      | some key =>
        (.next, ({ s with keypad := s.watched, waiting := false }).putReg x
          (UInt8.ofNat key.val)) :=
  rfl

theorem footprint_awaitKey (s : Processor) (x : Reg) :
    Footprint s (.awaitKey x) (s.awaitKey x).1 (s.awaitKey x).2 := by
  rw [awaitKey_eq]
  have houtcome : s.outcome (.awaitKey x) =
      if s.watched.firstFresh?.isNone then .wait else .next := rfl
  have hwaiting : s.nextWaiting (.awaitKey x) = s.watched.firstFresh?.isNone := rfl
  rcases hfresh : s.watched.firstFresh? with - | key
  · rw [hfresh] at houtcome hwaiting
    exact ⟨houtcome.symm, rfl, rfl, rfl, rfl, rfl, rfl, rfl, rfl, hwaiting.symm, rfl, rfl⟩
  · rw [hfresh] at houtcome hwaiting
    exact ⟨houtcome.symm, rfl, rfl, rfl, rfl, rfl, rfl, rfl, rfl, hwaiting.symm, rfl, rfl⟩

/-- **The table of footprints.** -/
theorem footprint_of_execute {s t : Processor} {i : Instruction} {o : Outcome}
    (h : s.execute i = .ok (o, t)) : Footprint s i o t := by
  cases i
  case callReturn =>
    rw [execute_callReturn] at h
    split at h
    · cases h
    · rename_i address rest hframes
      cases h
      refine ⟨rfl, rfl, ?_, rfl, rfl, rfl, ?_, rfl, rfl, rfl, rfl, rfl⟩
      · show { s.registers.stack with frames := rest } =
          { s.registers.stack with frames := s.registers.stack.frames.tail }
        rw [hframes]
        rfl
      · show address = s.registers.stack.frames.headD 0
        rw [hframes]
        rfl
  case call a =>
    rw [execute_call] at h
    split at h <;> cases h
    exact ⟨rfl, rfl, rfl, rfl, rfl, rfl, rfl, rfl, rfl, rfl, rfl, rfl⟩
  case draw x y rows =>
    rw [execute_draw, drawSprite, Display.draw_eq] at h
    split at h
    · cases h
    · split at h <;> cases h
      exact ⟨rfl, rfl, rfl, rfl, rfl, rfl, rfl, rfl, rfl, rfl, rfl, rfl⟩
  case readDelay x =>
    rw [execute_readDelay] at h
    split at h <;> cases h
    exact ⟨rfl, rfl, rfl, rfl, rfl, rfl, rfl, rfl, rfl, rfl, rfl, rfl⟩
  case awaitKey x =>
    have hdone : s.awaitKey x = (o, t) := Except.ok.inj ((execute_awaitKey s x).symm.trans h)
    have hfootprint := footprint_awaitKey s x
    rwa [hdone] at hfootprint
  case storeDecimal x =>
    rw [execute_storeDecimal, storeAtIndex] at h
    split at h <;> cases h
    exact ⟨rfl, rfl, rfl, rfl, rfl, rfl, rfl, rfl, rfl, rfl, rfl, rfl⟩
  case storeUpTo x =>
    rw [execute_storeUpTo, storeAtIndex] at h
    split at h <;> cases h
    exact ⟨rfl, rfl, rfl, rfl, rfl, rfl, rfl, rfl, rfl, rfl, rfl, rfl⟩
  case loadUpTo x =>
    rw [execute_loadUpTo] at h
    split at h <;> cases h
    rw [putFrom_eq]
    exact ⟨rfl, rfl, rfl, rfl, rfl, rfl, rfl, rfl, rfl, rfl, rfl, rfl⟩
  -- The others are their own equations.
  all_goals
    cases h
    exact ⟨rfl, rfl, rfl, rfl, rfl, rfl, rfl, rfl, rfl, rfl, rfl, rfl⟩

/-- Moving the program counter is all that an outcome does. -/
theorem settle_eq (s : Processor) (o : Outcome) :
    s.settle o = s.withRegisters { s.registers with pc := s.registers.pc + o.stride } := by
  cases o
  case next => rfl
  case skip => rfl
  all_goals
    show s = s.withRegisters { s.registers with pc := s.registers.pc + 0 }
    rw [Int.add_zero]
    rfl

/-- A step that succeeds leaves the footprint of its instruction, and then moves the program
counter. -/
theorem footprint_of_step {s t : Processor} {o : Outcome} (h : s.step = (.ok o, t)) :
    ∃ i u, Instruction.ofWord? s.word = some i ∧ Footprint { s with opcode := s.word } i o u ∧
      t = u.withRegisters { u.registers with pc := u.registers.pc + o.stride } := by
  obtain ⟨i, u, hdecode, -, hdone, rfl⟩ := step_eq_ok h
  exact ⟨i, u, hdecode, footprint_of_execute hdone, settle_eq u o⟩

end Processor

end ChipEight
