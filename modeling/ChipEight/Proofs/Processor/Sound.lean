import ChipEight.Proofs.Keypad.Fresh
import ChipEight.Proofs.Processor.Event
import ChipEight.Proofs.Processor.Footprint

/-!
# The bounds of the state

Only the bytes of the state are bounded by their types. This module bounds the rest: `Sound` says
how large memory, the index register, the program counter, the timers, the call stack and the
display can be, and that every marked key is held.

Most of it is one look at the table of footprints. The program counter needs more: only one jump
exceeds the addresses of memory, by at most a byte, but the other instructions move the program
counter on from wherever it is. They do so only after a fetch, and a fetch succeeds only at an
address that leaves room for a word (`counter_le_of_fetch`). The same fact bounds the return
addresses.
-/

namespace ChipEight.Processor

variable {s t : Processor}

/-- **The bounds of the state.** A byte of memory, a byte register and a pixel are what they are by
their types; the rest is listed here. -/
structure Sound (s : Processor) : Prop where
  /-- Memory has exactly 4096 bytes. -/
  memory : s.memory.size = 4096
  /-- The index register has sixteen bits. -/
  index : 0 ≤ s.registers.i ∧ s.registers.i ≤ 0xFFFF
  /-- The program counter is at most one byte past the greatest address. -/
  counter : 0 ≤ s.registers.pc ∧ s.registers.pc ≤ 0x10FE
  /-- The delay timer is a byte. -/
  delay : 0 ≤ s.registers.dt ∧ s.registers.dt ≤ 255
  /-- The sound timer is a byte. -/
  sound : 0 ≤ s.registers.st ∧ s.registers.st ≤ 255
  /-- The call stack takes sixteen addresses. -/
  capacity : s.registers.stack.capacity = 16
  /-- The call stack holds at most sixteen addresses. -/
  depth : s.registers.stack.depth ≤ 16
  /-- Every return address leaves room for a word. -/
  frames : ∀ address ∈ s.registers.stack.frames, 0 ≤ address ∧ address ≤ 0xFFE
  /-- The display has 64 columns. -/
  width : s.display.width = 64
  /-- The display has 32 rows. -/
  height : s.display.height = 32
  /-- The display has exactly 2048 pixels. -/
  pixels : s.display.pixels.size = 2048
  /-- Every marked key is held. -/
  marked : s.keypad.Marked

/-- At power-on the bounds hold. -/
theorem sound_initial (random : Twister) : (initial random).Sound where
  memory := by
    rw [initial, Memory.size_setBytes]
    exact Array.size_replicate
  index := show (0 : Int) ≤ 0 ∧ (0 : Int) ≤ 0xFFFF by decide
  counter := show (0 : Int) ≤ 0x200 ∧ (0x200 : Int) ≤ 0x10FE by decide
  delay := show (0 : Int) ≤ 0 ∧ (0 : Int) ≤ 255 by decide
  sound := show (0 : Int) ≤ 0 ∧ (0 : Int) ≤ 255 by decide
  capacity := rfl
  depth := Nat.zero_le 16
  frames := fun _ h ↦ absurd h List.not_mem_nil
  width := rfl
  height := rfl
  pixels := Array.size_replicate
  marked := Keypad.marked_released

/-! ### The components after an instruction -/

theorem nextIndex_bounds (h : 0 ≤ s.registers.i ∧ s.registers.i ≤ 0xFFFF) (i : Instruction) :
    0 ≤ s.nextIndex i ∧ s.nextIndex i ≤ 0xFFFF := by
  cases i
  case pointAt a =>
    have ha := a.isLt
    show 0 ≤ (a.val : Int) ∧ (a.val : Int) ≤ 0xFFFF
    omega
  case addToIndex x =>
    show 0 ≤ (s.registers.i + (s.reg x).toNat) % 0x10000 ∧
      (s.registers.i + (s.reg x).toNat) % 0x10000 ≤ 0xFFFF
    omega
  case pointAtGlyph x =>
    have hx := (s.reg x).toNat_lt
    show 0 ≤ (0 : Int) + 5 * (s.reg x).toNat ∧ (0 : Int) + 5 * (s.reg x).toNat ≤ 0xFFFF
    omega
  all_goals exact h

theorem byte_bounds (byte : UInt8) : 0 ≤ (byte.toNat : Int) ∧ (byte.toNat : Int) ≤ 255 := by
  have h := byte.toNat_lt
  omega

theorem nextDelay_bounds (h : 0 ≤ s.registers.dt ∧ s.registers.dt ≤ 255) (i : Instruction) :
    0 ≤ s.nextDelay i ∧ s.nextDelay i ≤ 255 := by
  cases i
  case setDelay x => exact byte_bounds (s.reg x)
  all_goals exact h

theorem nextSound_bounds (h : 0 ≤ s.registers.st ∧ s.registers.st ≤ 255) (i : Instruction) :
    0 ≤ s.nextSound i ∧ s.nextSound i ≤ 255 := by
  cases i
  case setSound x => exact byte_bounds (s.reg x)
  all_goals exact h

theorem nextStack_capacity (i : Instruction) :
    (s.nextStack i).capacity = s.registers.stack.capacity := by
  cases i <;> rfl

/-- The addresses on the call stack were there or are the address of a call. -/
theorem mem_nextStack {i : Instruction} {address : Int} (h : address ∈ (s.nextStack i).frames) :
    address ∈ s.registers.stack.frames ∨ address = s.registers.pc := by
  cases i
  case call a =>
    rcases List.mem_cons.1 h with rfl | h
    · exact .inr rfl
    · exact .inl h
  case callReturn => exact .inl (List.mem_of_mem_tail h)
  all_goals exact .inl h

theorem nextDisplay_sameSize (i : Instruction) : s.display.SameSize (s.nextDisplay i) := by
  cases i
  case clearDisplay => exact Display.sameSize_clear s.display
  case draw x y rows => exact Display.sameSize_drawn ..
  all_goals exact Display.SameSize.refl s.display

theorem marked_watched (h : s.keypad.Marked) : s.watched.Marked := by
  unfold watched
  split
  · exact h
  · exact Keypad.marked_latch s.keypad

theorem nextKeypad_marked (h : s.keypad.Marked) (i : Instruction) : (s.nextKeypad i).Marked := by
  cases i
  case awaitKey x => exact marked_watched h
  all_goals exact h

/-! ### The program counter and the call stack -/

/-- A fetch succeeds only where memory has room for a word. -/
theorem counter_le_of_fetch (h : s.Sound) {w : Nat} (hfetch : s.fetch = .ok w) :
    s.registers.pc ≤ 0xFFE := by
  have hinside := (fetch_eq_ok_iff.1 hfetch).1
  rw [Memory.Outside, h.memory] at hinside
  omega

/-- Where an instruction leads, with the outcome's stride added. -/
theorem target_bounds (h : s.Sound) (hpc : s.registers.pc ≤ 0xFFE) (i : Instruction) :
    0 ≤ s.target i + (s.outcome i).stride ∧ s.target i + (s.outcome i).stride ≤ 0x10FE := by
  have hlow := h.counter.1
  have hstride (o : Outcome) : 0 ≤ o.stride ∧ o.stride ≤ 4 := by
    cases o <;> exact ⟨by decide, by decide⟩
  have hon (o : Outcome) :
      0 ≤ s.registers.pc + o.stride ∧ s.registers.pc + o.stride ≤ 0x10FE := by
    have ho := hstride o
    omega
  cases i
  case jump a | call a =>
    have ha := a.isLt
    show 0 ≤ (a.val : Int) + 0 ∧ (a.val : Int) + 0 ≤ 0x10FE
    omega
  -- The one jump past the end of memory, by at most a byte.
  case jumpOffset a =>
    have ha := a.isLt
    have hbyte := (s.reg Reg.offset).toNat_lt
    show 0 ≤ (a.val : Int) + (s.reg Reg.offset).toNat + 0 ∧
      (a.val : Int) + (s.reg Reg.offset).toNat + 0 ≤ 0x10FE
    omega
  -- The address on top goes to the call itself, and the stride moves on from there.
  case callReturn =>
    have hhead : 0 ≤ s.registers.stack.frames.headD 0 ∧
        s.registers.stack.frames.headD 0 ≤ 0xFFE := by
      rcases hframes : s.registers.stack.frames with - | ⟨address, rest⟩
      · exact ⟨Int.le_refl 0, by decide⟩
      · exact h.frames address (hframes ▸ List.mem_cons_self)
    show 0 ≤ s.registers.stack.frames.headD 0 + 2 ∧ s.registers.stack.frames.headD 0 + 2 ≤ 0x10FE
    omega
  all_goals exact hon _

/-- A call that succeeds leaves at most as many addresses as the call stack takes. -/
theorem nextStack_depth (h : s.Sound) {i : Instruction} {o : Outcome}
    (hdone : s.execute i = .ok (o, t)) : (s.nextStack i).depth ≤ 16 := by
  have hdepth := h.depth
  cases i
  case call a =>
    rw [execute_call] at hdone
    split at hdone
    · cases hdone
    · rename_i hroom
      rw [h.capacity] at hroom
      show s.registers.stack.depth + 1 ≤ 16
      omega
  case callReturn =>
    show s.registers.stack.frames.tail.length ≤ 16
    rw [List.length_tail]
    exact Nat.le_trans (Nat.sub_le ..) hdepth
  all_goals exact hdepth

/-! ### The events -/

/-- **An instruction keeps the bounds.** -/
theorem Sound.settle (h : s.Sound) (hpc : s.registers.pc ≤ 0xFFE) {i : Instruction} {o : Outcome}
    (hdone : s.execute i = .ok (o, t)) : (t.settle o).Sound := by
  have f := footprint_of_execute hdone
  have hdisplay := nextDisplay_sameSize (s := s) i
  rw [settle_eq]
  constructor
  case memory =>
    show t.memory.size = 4096
    rw [f.memory, Memory.size_setBytes, h.memory]
  case index =>
    show 0 ≤ t.registers.i ∧ t.registers.i ≤ 0xFFFF
    rw [f.index]
    exact nextIndex_bounds h.index i
  case counter =>
    show 0 ≤ t.registers.pc + o.stride ∧ t.registers.pc + o.stride ≤ 0x10FE
    rw [f.counter, f.outcome]
    exact target_bounds h hpc i
  case delay =>
    show 0 ≤ t.registers.dt ∧ t.registers.dt ≤ 255
    rw [f.delay]
    exact nextDelay_bounds h.delay i
  case sound =>
    show 0 ≤ t.registers.st ∧ t.registers.st ≤ 255
    rw [f.sound]
    exact nextSound_bounds h.sound i
  case capacity =>
    show t.registers.stack.capacity = 16
    rw [f.stack, nextStack_capacity, h.capacity]
  case depth =>
    show t.registers.stack.depth ≤ 16
    rw [f.stack]
    exact nextStack_depth h hdone
  case frames =>
    intro address haddress
    change address ∈ t.registers.stack.frames at haddress
    rw [f.stack] at haddress
    rcases mem_nextStack haddress with hold | rfl
    · exact h.frames address hold
    · exact ⟨h.counter.1, hpc⟩
  case width =>
    show t.display.width = 64
    rw [f.display, hdisplay.width, h.width]
  case height =>
    show t.display.height = 32
    rw [f.display, hdisplay.height, h.height]
  case pixels =>
    show t.display.pixels.size = 2048
    rw [f.display, hdisplay.pixels, h.pixels]
  case marked =>
    show t.keypad.Marked
    rw [f.keypad]
    exact nextKeypad_marked h.marked i

/-- The opcode is not bounded. -/
theorem Sound.withOpcode (h : s.Sound) (opcode : Nat) : Sound { s with opcode } where
  __ := h

/-- **A step keeps the bounds**, whether it succeeds or fails. -/
theorem Sound.step (h : s.Sound) : s.step.2.Sound := by
  rcases hstep : s.step with ⟨failure | outcome, t⟩
  · rw [step_eq_error hstep]
    exact h.withOpcode _
  · obtain ⟨i, u, -, hfetch, hdone, rfl⟩ := step_eq_ok hstep
    have hpc := counter_le_of_fetch h hfetch
    exact (h.withOpcode s.word).settle hpc hdone

theorem timerAfter_bounds (ticks : Nat) {timer : Int} (h : 0 ≤ timer ∧ timer ≤ 255) :
    0 ≤ Registers.timerAfter ticks timer ∧ Registers.timerAfter ticks timer ≤ 255 := by
  unfold Registers.timerAfter
  omega

/-- Ticks keep the bounds. -/
theorem Sound.ticks (h : s.Sound) (count : Nat) :
    (s.withRegisters (s.registers.ticks count)).Sound where
  __ := h
  delay := timerAfter_bounds count h.delay
  sound := timerAfter_bounds count h.sound

/-- **Every event keeps the bounds.** -/
theorem Sound.on (h : s.Sound) (event : Event) : (s.on event).Sound := by
  cases event with
  | step => exact h.step
  | tick => exact h.ticks 1
  | press key => exact { h with marked := h.marked.press key }
  | release key => exact { h with marked := h.marked.release key }

end ChipEight.Processor
