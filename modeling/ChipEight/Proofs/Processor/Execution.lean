import ChipEight.Processor
import ChipEight.Proofs.Display.Drawing
import ChipEight.Proofs.Memory.Block

/-!
# Instructions at work

An instruction works on the processor itself, one micro-operation after another, so nothing in the
form of its execution keeps one that fails from leaving something behind. Here each instruction is
run once and for all. Those that may fail check before they store anything, and the display has all
its pixels or none. So an instruction either comes to an outcome and a state, which `execute` names,
or leaves the processor as it found it (`run_handle`).

Each instruction has a branch of its own for its line. All of them print first, print one line, and
take no further notice of the trace (`handle_eq`).
-/

namespace ChipEight

variable {β γ : Type}

/-! ### Micro-operations, one by one -/

namespace Micro

@[simp] theorem run_pure (value : β) (b : Bench) :
    (pure value : Micro β).run b = (.ok value, b) := rfl

@[simp] theorem run_bind (micro : Micro β) (f : β → Micro γ) (b : Bench) :
    (micro >>= f).run b =
      match micro.run b with
      | (.ok value, c) => (f value).run c
      | (.error failure, c) => (.error failure, c) := by
  have hbind : (micro >>= f).run b = (ExceptT.bindCont f (micro.run b).1).run (micro.run b).2 := rfl
  rw [hbind]
  rcases micro.run b with ⟨failure | value, c⟩ <;> rfl

@[simp] theorem run_ofResult (result : Except Failure β) (b : Bench) :
    (ofResult result).run b = (result, b) := by
  cases result <;> rfl

@[simp] theorem run_core (b : Bench) : core.run b = (.ok b.core, b) := rfl

@[simp] theorem run_registers (b : Bench) : registers.run b = (.ok b.core.registers, b) := rfl

@[simp] theorem run_reg (x : Reg) (b : Bench) : (reg x).run b = (.ok (b.core.reg x), b) := rfl

@[simp] theorem run_change (f : Processor → Processor) (b : Bench) :
    (change f).run b = (.ok (), { b with core := f b.core }) := rfl

@[simp] theorem run_changeRegisters (f : Registers → Registers) (b : Bench) :
    (changeRegisters f).run b =
      (.ok (), { b with core := b.core.withRegisters (f b.core.registers) }) := rfl

@[simp] theorem run_putWaiting (waiting : Bool) (b : Bench) :
    (putWaiting waiting).run b = (.ok (), { b with core := { b.core with waiting } }) := rfl

/-- Nothing is printed unless execution is traced. -/
@[simp] theorem run_debug_false (text : String) (b : Bench) :
    (debug false text).run b = (.ok (), b) := rfl

theorem debug_false (text : String) : debug false text = pure () := rfl

/-- A line shows the registers and the opcode as they are. -/
@[simp] theorem run_debug_true (text : String) (b : Bench) :
    (debug true text).run b = (.ok (), { b with
      lines := b.lines ++ [Trace.line b.core.registers b.core.opcode text] }) := rfl

@[simp] theorem run_readBlock (address size : Int) (b : Bench) :
    (readBlock address size).run b = (b.core.memory.readBlock address size, b) := by
  simp only [readBlock, run_bind, run_core, run_ofResult]

/-- A block is stored where it lies inside memory; elsewhere nothing is. -/
theorem run_writeBlock (address : Int) (block : List UInt8) (b : Bench) :
    (writeBlock address block).run b =
      if b.core.memory.Outside address block.length then
        (.error (.fault (.memoryAccess address block.length)), b)
      else
        (.ok (), { b with
          core := { b.core with memory := b.core.memory.setBytes address.toNat block } }) := by
  simp only [writeBlock, run_bind, run_core, run_ofResult, run_change, Memory.check]
  by_cases houtside : b.core.memory.Outside address block.length
  · rw [if_pos houtside, if_pos houtside]
  · rw [if_neg houtside, if_neg houtside]

/-- An address is added where there is room; to a full stack nothing is. -/
theorem run_push (address : Int) (b : Bench) :
    (push address).run b =
      if (b.core.registers.stack.depth : Int) ≥ b.core.registers.stack.capacity then
        (.error (.fault (.stackOverflow address b.core.registers.stack.capacity)), b)
      else
        (.ok (), { b with core := (b.core.withRegisters
          { b.core.registers with stack := b.core.registers.stack.add address }) }) := by
  simp only [push, run_bind, run_registers, run_ofResult, run_changeRegisters,
    CallStack.checkRoom]
  by_cases hfull : (b.core.registers.stack.depth : Int) ≥ b.core.registers.stack.capacity
  · rw [if_pos hfull, if_pos hfull]
  · rw [if_neg hfull, if_neg hfull]

/-- An address is removed where there is one. -/
theorem run_pop (b : Bench) :
    pop.run b =
      match b.core.registers.stack.frames with
      | [] => (.error (.fault .stackUnderflow), b)
      | address :: rest =>
        (.ok address, { b with core := (b.core.withRegisters
          { b.core.registers with
            stack := { b.core.registers.stack with frames := rest } }) }) := by
  rcases hframes : b.core.registers.stack.frames with - | ⟨address, rest⟩ <;>
    simp only [pop, run_bind, run_registers, run_ofResult, run_changeRegisters, run_pure,
      CallStack.top, CallStack.drop, hframes, List.tail_cons]

/-- A sprite is drawn whole, or not at all where there are no pixels to name. -/
theorem run_drawSprite (x y : Int) (sprite : Sprite) (b : Bench) :
    (drawSprite x y sprite).run b =
      if b.core.display.Flat ∧ sprite.cells ≠ [] then (.error .zeroDivisor, b)
      else
        (.ok (b.core.display.drawn x y sprite).1, { b with
          core := { b.core with display := (b.core.display.drawn x y sprite).2 } }) := by
  simp only [drawSprite, run_bind, run_core, run_ofResult, run_change, Display.drawSprite_eq]
  by_cases hfails : b.core.display.Flat ∧ sprite.cells ≠ []
  · rw [if_pos hfails, if_pos hfails]
  · rw [if_neg hfails, if_neg hfails]

end Micro

/-! ### Lines -/

/-- An instruction in assembly language, as its line shows it. -/
def Instruction.text : Instruction → String
  | .clearDisplay => "CLS"
  | .callReturn => "RET"
  | .jump a => assembly "JP" [addressText a]
  | .call a => assembly "CALL" [addressText a]
  | .skipIfByte x kk => assembly "SE" [regText x, byteText kk]
  | .skipUnlessByte x kk => assembly "SNE" [regText x, byteText kk]
  | .skipIfEqual x y => assembly "SE" [regText x, regText y]
  | .loadByte x kk => assembly "LD" [regText x, byteText kk]
  | .addByte x kk => assembly "ADD" [regText x, byteText kk]
  | .copy x y => assembly "LD" [regText x, regText y]
  | .or x y => assembly "OR" [regText x, regText y]
  | .and x y => assembly "AND" [regText x, regText y]
  | .xor x y => assembly "XOR" [regText x, regText y]
  | .add x y => assembly "ADD" [regText x, regText y]
  | .subtract x y => assembly "SUB" [regText x, regText y]
  | .shiftRight x => assembly "SHR" [regText x]
  | .subtractFrom x y => assembly "SUBN" [regText x, regText y]
  | .shiftLeft x => assembly "SHL" [regText x]
  | .skipUnlessEqual x y => assembly "SNE" [regText x, regText y]
  | .pointAt a => assembly "LD" ["I", addressText a]
  | .jumpOffset a => assembly "JP" ["V0", addressText a]
  | .random x kk => assembly "RND" [regText x, byteText kk]
  | .draw x y n => assembly "DRW" [regText x, regText y, "0x" ++ Hex.padded 1 n.val]
  | .skipIfHeld x => assembly "SKP" [regText x]
  | .skipUnlessHeld x => assembly "SKNP" [regText x]
  | .readDelay x => assembly "LD" [regText x, "DT"]
  | .awaitKey x => assembly "LD" [regText x, "K"]
  | .setDelay x => assembly "LD" ["DT", regText x]
  | .setSound x => assembly "LD" ["ST", regText x]
  | .addToIndex x => assembly "ADD" ["I", regText x]
  | .pointAtGlyph x => assembly "LD" ["F", regText x]
  | .storeDecimal x => assembly "LD" ["B", regText x]
  | .storeUpTo x => assembly "LD" ["[I]", regText x]
  | .loadUpTo x => assembly "LD" [regText x, "[I]"]

namespace Processor

variable {s : Processor}

/-- **Each instruction prints its line first**, if execution is traced, and then does what it does
when it is not. -/
theorem handle_eq (live : Bool) (i : Instruction) :
    handle live i = (do Micro.debug live i.text; handle false i) := by
  cases i <;> simp only [handle, Instruction.text, Micro.debug_false, pure_bind]

/-! ### What instructions come to -/

/-- What an instruction comes to: its outcome and the state after it, or its failure. -/
def execute (s : Processor) (i : Instruction) : Except Failure (Outcome × Processor) :=
  match (handle false i).run ⟨s, []⟩ with
  | (.ok outcome, b) => .ok (outcome, b.core)
  | (.error failure, _) => .error failure

/-- The state with a byte register stored and the flag set after it, so that the flag wins if the
register is the flag register. -/
def putWithFlag (s : Processor) (x : Reg) (value : UInt8) (flag : Bool) : Processor :=
  s.withRegisters ((s.registers.put x value).putFlag flag)

/-- The wait for a key. When it begins, the keys held are marked, and only a fresh press ends it,
the lowest key winning. -/
def awaitKey (s : Processor) (x : Reg) : Outcome × Processor :=
  let keypad := if s.waiting then s.keypad else s.keypad.latch
  match keypad.firstFresh? with
  | none => (.wait, { s with keypad, waiting := true })
  | some key => (.next, ({ s with keypad, waiting := false }).putReg x (UInt8.ofNat key.val))

/-- The state with a sprite drawn from the index register on, or the failure. -/
def drawSprite (s : Processor) (x y : Reg) (rows : Nibble) : Except Failure (Outcome × Processor) :=
  if s.memory.Outside s.registers.i rows.val then
    .error (.fault (.memoryAccess s.registers.i rows.val))
  else
    (s.display.draw (s.reg x).toNat (s.reg y).toNat
      (s.memory.block s.registers.i rows.val)).map fun drawn ↦
        (.next, { s with display := drawn.2, registers := s.registers.putFlag drawn.1 })

/-- The state with a block stored from the index register on, or the failure. -/
def storeAtIndex (s : Processor) (block : List UInt8) : Except Failure (Outcome × Processor) :=
  if s.memory.Outside s.registers.i block.length then
    .error (.fault (.memoryAccess s.registers.i block.length))
  else .ok (.next, { s with memory := s.memory.setBytes s.registers.i.toNat block })

end Processor

/-- The bench behind an instruction that comes to something: one that fails leaves it as it is. -/
def Bench.after (b : Bench) : Except Failure (Outcome × Processor) → Except Failure Outcome × Bench
  | .ok (outcome, s) => (.ok outcome, { b with core := s })
  | .error failure => (.error failure, b)

namespace Processor

/-- What an instruction does to every bench in the same way is what it comes to. -/
theorem execute_eq_of_run {i : Instruction} {result : Except Failure (Outcome × Processor)}
    (h : (handle false i).run ⟨s, []⟩ = (⟨s, []⟩ : Bench).after result) : s.execute i = result := by
  unfold execute
  rw [h]
  rcases result with failure | ⟨outcome, t⟩ <;> rfl

/-! ### The instructions that may fail or that wait -/

theorem run_callReturn (b : Bench) :
    (handle false .callReturn).run b = b.after (match b.core.registers.stack.frames with
      | [] => .error (.fault .stackUnderflow)
      | address :: rest =>
        .ok (.next, b.core.withRegisters
          { b.core.registers with
            pc := address
            stack := { b.core.registers.stack with frames := rest } })) := by
  simp only [handle, Micro.run_bind, Micro.run_debug_false, Micro.run_pop]
  rcases b.core.registers.stack.frames with - | ⟨address, rest⟩ <;> rfl

theorem run_call (a : Address) (b : Bench) :
    (handle false (.call a)).run b = b.after
      (if (b.core.registers.stack.depth : Int) ≥ b.core.registers.stack.capacity then
        .error (.fault (.stackOverflow b.core.registers.pc b.core.registers.stack.capacity))
      else
        .ok (.jump, b.core.withRegisters
          { b.core.registers with
            pc := a.val
            stack := { b.core.registers.stack with
              frames := b.core.registers.pc :: b.core.registers.stack.frames } })) := by
  simp only [handle, Micro.run_bind, Micro.run_debug_false, Micro.run_registers, Micro.run_push]
  by_cases hfull : (b.core.registers.stack.depth : Int) ≥ b.core.registers.stack.capacity
  · rw [if_pos hfull, if_pos hfull]
    rfl
  · rw [if_neg hfull, if_neg hfull]
    rfl

theorem run_draw (x y : Reg) (rows : Nibble) (b : Bench) :
    (handle false (.draw x y rows)).run b = b.after (b.core.drawSprite x y rows) := by
  simp only [handle, Micro.run_bind, Micro.run_debug_false, Micro.run_registers,
    Micro.run_readBlock, Micro.run_reg, Micro.run_drawSprite, Memory.readBlock_eq]
  unfold drawSprite
  by_cases houtside : b.core.memory.Outside b.core.registers.i rows.val
  · rw [if_pos houtside, if_pos houtside]
    rfl
  · rw [if_neg houtside, if_neg houtside, Display.draw_eq]
    dsimp only
    by_cases hflat : b.core.display.Flat ∧
        Sprite.cells (b.core.memory.block b.core.registers.i rows.val) ≠ []
    · rw [if_pos hflat, if_pos hflat]
      rfl
    · rw [if_neg hflat, if_neg hflat]
      rfl

theorem run_readDelay (x : Reg) (b : Bench) :
    (handle false (.readDelay x)).run b = b.after
      (if 0 ≤ b.core.registers.dt ∧ b.core.registers.dt < 256 then
        .ok (.next, b.core.putReg x (UInt8.ofNat b.core.registers.dt.toNat))
      else .error (.notAByte b.core.registers.dt)) := by
  simp only [handle, Micro.run_bind, Micro.run_debug_false, Micro.run_registers,
    Micro.run_ofResult, byteOf]
  by_cases hbyte : 0 ≤ b.core.registers.dt ∧ b.core.registers.dt < 256
  · rw [if_pos hbyte, if_pos hbyte]
    rfl
  · rw [if_neg hbyte, if_neg hbyte]
    rfl

theorem run_awaitKey (x : Reg) (b : Bench) :
    (handle false (.awaitKey x)).run b = b.after (.ok (b.core.awaitKey x)) := by
  rcases b with ⟨⟨memory, registers, display, keypad, random, opcode, waiting⟩, lines⟩
  unfold awaitKey
  cases waiting with
  | false =>
    simp only [handle, Micro.run_bind, Micro.run_debug_false, Micro.run_core, Micro.run_change,
      Micro.run_putWaiting, Bool.not_false, if_true, Bool.false_eq_true, if_false]
    cases keypad.latch.firstFresh? <;> rfl
  | true =>
    simp only [handle, Micro.run_bind, Micro.run_debug_false, Micro.run_core, Bool.not_true,
      Bool.false_eq_true, if_false, if_true]
    cases keypad.firstFresh? <;> rfl

/-- A block is stored at the index register by the last micro-operation of an instruction. -/
theorem run_storeAtIndex (block : List UInt8) (b : Bench) :
    (do Micro.writeBlock b.core.registers.i block; return .next : Micro Outcome).run b =
      b.after (b.core.storeAtIndex block) := by
  simp only [Micro.run_bind, Micro.run_writeBlock]
  unfold storeAtIndex
  by_cases houtside : b.core.memory.Outside b.core.registers.i block.length
  · rw [if_pos houtside, if_pos houtside]
    rfl
  · rw [if_neg houtside, if_neg houtside]
    rfl

theorem run_storeDecimal (x : Reg) (b : Bench) :
    (handle false (.storeDecimal x)).run b =
      b.after (b.core.storeAtIndex (decimalDigits (b.core.reg x))) :=
  run_storeAtIndex (decimalDigits (b.core.reg x)) b

theorem run_storeUpTo (x : Reg) (b : Bench) :
    (handle false (.storeUpTo x)).run b =
      b.after (b.core.storeAtIndex (b.core.registers.upTo x)) :=
  run_storeAtIndex (b.core.registers.upTo x) b

theorem run_loadUpTo (x : Reg) (b : Bench) :
    (handle false (.loadUpTo x)).run b = b.after
      (if b.core.memory.Outside b.core.registers.i (x.val + 1) then
        .error (.fault (.memoryAccess b.core.registers.i (x.val + 1)))
      else
        .ok (.next, b.core.withRegisters
          (b.core.registers.putFrom 0 (b.core.memory.block b.core.registers.i (x.val + 1))))) := by
  simp only [handle, Micro.run_bind, Micro.run_debug_false, Micro.run_registers,
    Micro.run_readBlock, Memory.readBlock_eq]
  by_cases houtside : b.core.memory.Outside b.core.registers.i (x.val + 1)
  · rw [if_pos houtside, if_pos houtside]
    rfl
  · rw [if_neg houtside, if_neg houtside]
    rfl

/-! ### What they come to -/

theorem execute_callReturn (s : Processor) :
    s.execute .callReturn =
      match s.registers.stack.frames with
      | [] => .error (.fault .stackUnderflow)
      | address :: rest =>
        .ok (.next, s.withRegisters
          { s.registers with
            pc := address
            stack := { s.registers.stack with frames := rest } }) :=
  execute_eq_of_run (run_callReturn _)

theorem execute_call (s : Processor) (a : Address) :
    s.execute (.call a) =
      if (s.registers.stack.depth : Int) ≥ s.registers.stack.capacity then
        .error (.fault (.stackOverflow s.registers.pc s.registers.stack.capacity))
      else
        .ok (.jump, s.withRegisters
          { s.registers with
            pc := a.val
            stack := { s.registers.stack with
              frames := s.registers.pc :: s.registers.stack.frames } }) :=
  execute_eq_of_run (run_call a _)

theorem execute_draw (s : Processor) (x y : Reg) (rows : Nibble) :
    s.execute (.draw x y rows) = s.drawSprite x y rows :=
  execute_eq_of_run (run_draw x y rows _)

theorem execute_readDelay (s : Processor) (x : Reg) :
    s.execute (.readDelay x) =
      if 0 ≤ s.registers.dt ∧ s.registers.dt < 256 then
        .ok (.next, s.putReg x (UInt8.ofNat s.registers.dt.toNat))
      else .error (.notAByte s.registers.dt) :=
  execute_eq_of_run (run_readDelay x _)

theorem execute_awaitKey (s : Processor) (x : Reg) :
    s.execute (.awaitKey x) = .ok (s.awaitKey x) :=
  execute_eq_of_run (run_awaitKey x _)

theorem execute_storeDecimal (s : Processor) (x : Reg) :
    s.execute (.storeDecimal x) = s.storeAtIndex (decimalDigits (s.reg x)) :=
  execute_eq_of_run (run_storeDecimal x _)

theorem execute_storeUpTo (s : Processor) (x : Reg) :
    s.execute (.storeUpTo x) = s.storeAtIndex (s.registers.upTo x) :=
  execute_eq_of_run (run_storeUpTo x _)

theorem execute_loadUpTo (s : Processor) (x : Reg) :
    s.execute (.loadUpTo x) =
      if s.memory.Outside s.registers.i (x.val + 1) then
        .error (.fault (.memoryAccess s.registers.i (x.val + 1)))
      else
        .ok (.next, s.withRegisters
          (s.registers.putFrom 0 (s.memory.block s.registers.i (x.val + 1)))) :=
  execute_eq_of_run (run_loadUpTo x _)

/-! ### All instructions -/

/-- Without a trace, an instruction does to every bench what it comes to. -/
theorem run_handle_false (i : Instruction) (b : Bench) :
    (handle false i).run b = b.after (b.core.execute i) := by
  cases i
  case callReturn => rw [run_callReturn, execute_callReturn]
  case call a => rw [run_call, execute_call]
  case draw x y rows => rw [run_draw, execute_draw]
  case readDelay x => rw [run_readDelay, execute_readDelay]
  case awaitKey x => rw [run_awaitKey, execute_awaitKey]
  case storeDecimal x => rw [run_storeDecimal, execute_storeDecimal]
  case storeUpTo x => rw [run_storeUpTo, execute_storeUpTo]
  case loadUpTo x => rw [run_loadUpTo, execute_loadUpTo]
  -- The others neither fail nor look at what they have stored.
  all_goals rfl

/-- The line of an instruction, if execution is traced. -/
def printed (live : Bool) (s : Processor) (i : Instruction) : List String :=
  if live then [Trace.line s.registers s.opcode i.text] else []

/-- **An instruction at work** prints its line, if execution is traced, and then does what it comes
to on its own: if it fails, nothing else. -/
theorem run_handle (live : Bool) (i : Instruction) (b : Bench) :
    (handle live i).run b =
      { b with lines := b.lines ++ b.core.printed live i }.after (b.core.execute i) := by
  rw [handle_eq, Micro.run_bind]
  cases live with
  | false =>
    rw [Micro.run_debug_false]
    dsimp only
    rw [run_handle_false, show b.core.printed false i = [] from rfl, List.append_nil]
  | true =>
    rw [Micro.run_debug_true]
    exact run_handle_false i _

end Processor

end ChipEight
