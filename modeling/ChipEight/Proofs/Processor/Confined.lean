import ChipEight.Proofs.Processor.Fault
import ChipEight.Proofs.Processor.Sound
import ChipEight.Proofs.Registers.Access

/-!
# What changes under which instruction

The table of footprints read the other way: for each component of the state, the instructions under
which it can change, and how much of it. Memory changes within the block that is stored, and the
call stack by one address on top. The byte registers are not in the table, so they come first here:
`Instruction.Writes` lists the registers that an instruction may write, and `reg_of_execute` says
that it writes no other.

`confined_of_step` collects the components. It holds in every state, within the bounds or not.
-/

namespace ChipEight

/-- The byte registers that an instruction may write. -/
def Instruction.Writes (i : Instruction) (z : Reg) : Prop :=
  match i with
  | .loadByte x _ | .addByte x _ | .copy x _ | .or x _ | .and x _ | .xor x _ => z = x
  | .add x _ | .subtract x _ | .shiftRight x | .subtractFrom x _ | .shiftLeft x =>
    z = x ∨ z = Reg.flag
  | .random x _ | .readDelay x | .awaitKey x => z = x
  | .draw _ _ _ => z = Reg.flag
  | .loadUpTo x => z ≤ x
  | _ => False

namespace Processor

variable {s t : Processor} {i : Instruction} {o : Outcome} {z : Reg}

/-! ### The byte registers -/

theorem reg_putReg (s : Processor) (value : UInt8) {x : Reg} (hz : z ≠ x) :
    (s.putReg x value).reg z = s.reg z :=
  (Registers.get_put ..).trans (if_neg (Ne.symm hz))

theorem reg_putWithFlag (s : Processor) (value : UInt8) (flag : Bool) {x : Reg}
    (hz : ¬ (z = x ∨ z = Reg.flag)) : (s.putWithFlag x value flag).reg z = s.reg z := by
  obtain ⟨hx, hflag⟩ := not_or.1 hz
  calc (s.putWithFlag x value flag).reg z
      = (s.registers.put x value).get z :=
        (Registers.get_putFlag ..).trans (if_neg (Ne.symm hflag))
    _ = s.reg z := reg_putReg s value hx

theorem reg_awaitKey (s : Processor) {x : Reg} (hz : z ≠ x) : (s.awaitKey x).2.reg z = s.reg z := by
  rw [awaitKey_eq]
  rcases s.watched.firstFresh? with - | key
  · rfl
  · exact reg_putReg _ _ hz

/-- **An instruction writes no register but those it may write.** -/
theorem reg_of_execute (h : s.execute i = .ok (o, t)) (hz : ¬ i.Writes z) : t.reg z = s.reg z := by
  cases i
  case loadByte | addByte | copy | or | and | xor | random =>
    cases h
    exact reg_putReg _ _ hz
  case add | subtract | shiftRight | subtractFrom | shiftLeft =>
    cases h
    exact reg_putWithFlag s _ _ hz
  case callReturn =>
    rw [execute_callReturn] at h
    split at h <;> cases h
    rfl
  case call a =>
    rw [execute_call] at h
    split at h <;> cases h
    rfl
  case readDelay x =>
    rw [execute_readDelay] at h
    split at h <;> cases h
    exact reg_putReg _ _ hz
  case awaitKey x =>
    have hdone : s.awaitKey x = (o, t) := Except.ok.inj ((execute_awaitKey s x).symm.trans h)
    have hkept := reg_awaitKey s hz
    rwa [hdone] at hkept
  case draw x y rows =>
    rw [execute_draw, drawSprite, Display.draw_eq] at h
    split at h
    · cases h
    · split at h <;> cases h
      exact (Registers.get_putFlag ..).trans (if_neg (Ne.symm hz))
  case storeDecimal x =>
    rw [execute_storeDecimal, storeAtIndex] at h
    split at h <;> cases h
    rfl
  case storeUpTo x =>
    rw [execute_storeUpTo, storeAtIndex] at h
    split at h <;> cases h
    rfl
  case loadUpTo x =>
    rw [execute_loadUpTo] at h
    split at h
    · cases h
    · rename_i hinside
      cases h
      have hlength : (s.memory.block s.registers.i (x.val + 1)).length = x.val + 1 :=
        Memory.length_block (n := x.val + 1) hinside
      refine Registers.get_putFrom_of_outside _ _ _ _ (.inr ?_)
      rw [hlength, Nat.zero_add]
      exact Nat.lt_of_not_le hz
  all_goals
    cases h
    rfl

/-! ### Memory -/

/-- A block is stored only where memory has room for it. -/
theorem inside_of_storeAtIndex {block : List UInt8} (h : s.storeAtIndex block = .ok (o, t)) :
    ¬ s.memory.Outside s.registers.i block.length := by
  rw [storeAtIndex] at h
  split at h
  · cases h
  · assumption

/-- A byte of memory that an instruction changes lies in the block that it stores. -/
theorem mem_storedBlock_of_execute (h : s.execute i = .ok (o, t)) {a : Nat}
    (ha : t.memory.byteAt a ≠ s.memory.byteAt a) :
    s.registers.i.toNat ≤ a ∧ a < s.registers.i.toNat + (s.storedBlock i).length := by
  have f := footprint_of_execute h
  by_contra houtside
  rw [f.memory] at ha
  exact ha (Memory.byteAt_setBytes_of_outside _ (by omega))

/-! ### All components -/

/-- Marking keys does not touch the keys that are held. -/
theorem down_watched (s : Processor) : s.watched.down = s.keypad.down := by
  unfold watched
  split <;> rfl

/-- **Every change is confined.** Each component of the state changes only under the instructions
that are named with it, and only as far as is said there. -/
structure Confined (s : Processor) (i : Instruction) (t : Processor) : Prop where
  /-- Memory: three digits at the index register, or the registers that are stored there. -/
  memory : ∀ a : Nat, t.memory.byteAt a ≠ s.memory.byteAt a →
    (∃ x, i = .storeDecimal x ∧ s.registers.i ≤ a ∧ a ≤ s.registers.i + 2) ∨
      (∃ x, i = .storeUpTo x ∧ s.registers.i ≤ a ∧ a ≤ s.registers.i + x.val)
  memorySize : t.memory.size = s.memory.size
  display : t.display ≠ s.display → i = .clearDisplay ∨ ∃ x y rows, i = .draw x y rows
  /-- The call stack: one address is added on top, or the one on top is removed. -/
  stack : t.registers.stack ≠ s.registers.stack →
    (∃ a, i = .call a ∧ t.registers.stack.frames = s.registers.pc :: s.registers.stack.frames) ∨
      (i = .callReturn ∧ ∃ a, s.registers.stack.frames = a :: t.registers.stack.frames)
  capacity : t.registers.stack.capacity = s.registers.stack.capacity
  delay : t.registers.dt ≠ s.registers.dt → ∃ x, i = .setDelay x
  sound : t.registers.st ≠ s.registers.st → ∃ x, i = .setSound x
  index : t.registers.i ≠ s.registers.i →
    (∃ a, i = .pointAt a) ∨ (∃ x, i = .addToIndex x) ∨ ∃ x, i = .pointAtGlyph x
  random : t.random ≠ s.random → ∃ x mask, i = .random x mask
  latched : t.keypad.latched ≠ s.keypad.latched → ∃ x, i = .awaitKey x
  waiting : t.waiting ≠ s.waiting → ∃ x, i = .awaitKey x
  /-- The keys that are held stay held, and no other is. -/
  held : t.keypad.down = s.keypad.down
  registers : ∀ z, t.reg z ≠ s.reg z → i.Writes z

/-- **An instruction confines its changes.** -/
theorem confined_of_execute (h : s.execute i = .ok (o, t)) : s.Confined i t := by
  have f := footprint_of_execute h
  have hstored {a : Nat} := mem_storedBlock_of_execute h (a := a)
  -- Each component is read off its row of the table, which shows no change under the instructions
  -- that are not named with it.
  constructor
  case memory =>
    intro a ha
    obtain ⟨hlow, hhigh⟩ := hstored ha
    cases i
    case storeDecimal x =>
      rw [execute_storeDecimal] at h
      have hinside : ¬ s.memory.Outside s.registers.i 3 := inside_of_storeAtIndex h
      rw [Memory.Outside] at hinside
      change a < s.registers.i.toNat + 3 at hhigh
      exact .inl ⟨x, rfl, by omega, by omega⟩
    case storeUpTo x =>
      rw [execute_storeUpTo] at h
      have hinside : ¬ s.memory.Outside s.registers.i (s.registers.upTo x).length :=
        inside_of_storeAtIndex h
      rw [Memory.Outside] at hinside
      change a < s.registers.i.toNat + (s.registers.upTo x).length at hhigh
      rw [length_upTo] at hhigh
      exact .inr ⟨x, rfl, by omega, by omega⟩
    all_goals exact absurd hhigh (Nat.not_lt.2 hlow)
  case memorySize => rw [f.memory, Memory.size_setBytes]
  case display =>
    intro hne
    rw [f.display] at hne
    cases i
    case clearDisplay => exact .inl rfl
    case draw x y rows => exact .inr ⟨x, y, rows, rfl⟩
    all_goals exact absurd rfl hne
  case stack =>
    intro hne
    rw [f.stack] at hne ⊢
    cases i
    case call a => exact .inl ⟨a, rfl, rfl⟩
    case callReturn =>
      refine .inr ⟨rfl, ?_⟩
      show ∃ a, s.registers.stack.frames = a :: s.registers.stack.frames.tail
      rw [execute_callReturn] at h
      split at h
      · cases h
      · rename_i address rest hframes
        exact ⟨address, by rw [hframes]; rfl⟩
    all_goals exact absurd rfl hne
  case capacity => rw [f.stack, nextStack_capacity]
  case delay =>
    intro hne
    rw [f.delay] at hne
    cases i
    case setDelay x => exact ⟨x, rfl⟩
    all_goals exact absurd rfl hne
  case sound =>
    intro hne
    rw [f.sound] at hne
    cases i
    case setSound x => exact ⟨x, rfl⟩
    all_goals exact absurd rfl hne
  case index =>
    intro hne
    rw [f.index] at hne
    cases i
    case pointAt a => exact .inl ⟨a, rfl⟩
    case addToIndex x => exact .inr (.inl ⟨x, rfl⟩)
    case pointAtGlyph x => exact .inr (.inr ⟨x, rfl⟩)
    all_goals exact absurd rfl hne
  case random =>
    intro hne
    rw [f.random] at hne
    cases i
    case random x mask => exact ⟨x, mask, rfl⟩
    all_goals exact absurd rfl hne
  case latched =>
    intro hne
    rw [f.keypad] at hne
    cases i
    case awaitKey x => exact ⟨x, rfl⟩
    all_goals exact absurd rfl hne
  case waiting =>
    intro hne
    rw [f.waiting] at hne
    cases i
    case awaitKey x => exact ⟨x, rfl⟩
    all_goals exact absurd rfl hne
  case held =>
    rw [f.keypad]
    cases i
    case awaitKey x => exact down_watched s
    all_goals rfl
  case registers =>
    intro z hne
    by_contra hz
    exact hne (reg_of_execute h hz)

/-- **A step that succeeds confines its changes** to what its instruction may touch. The instruction
is told by its word, whose pattern `Instruction.toWord` shows. -/
theorem confined_of_step (h : s.step = (.ok o, t)) :
    ∃ i spare, s.fetch = .ok (Instruction.toWord i spare) ∧ s.Confined i t := by
  obtain ⟨i, u, hdecode, hfetch, hdone, rfl⟩ := step_eq_ok h
  have hword := Instruction.toWord_of_ofWord? hdecode
  have hconfined := confined_of_execute hdone
  refine ⟨i, _, by rw [hfetch, hword], ?_⟩
  rw [settle_eq]
  exact { hconfined with }

/-- A program of one instruction that stores two registers over itself. -/
theorem confined_of_step_storeUpTo :
    (bare #[0xF1, 0x55]).step.1 = .ok .next ∧
      ∃ i spare, (bare #[0xF1, 0x55]).fetch = .ok (Instruction.toWord i spare) ∧
        (bare #[0xF1, 0x55]).Confined i (bare #[0xF1, 0x55]).step.2 := by
  have h : (bare #[0xF1, 0x55]).step.1 = .ok .next := by decide +kernel
  exact ⟨h, confined_of_step (Prod.ext h rfl)⟩

end Processor

end ChipEight
