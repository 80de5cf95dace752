import ChipEight.Proofs.Processor.Event
import ChipEight.Proofs.Processor.Footprint
import ChipEight.Proofs.Keypad.Fresh

/-!
# Where control goes on

The program counter moves in two places: an instruction may set it, and the step then moves it on by
the outcome. `GoesOn` lists what comes out of both together, by the instruction and the state in
front of the step: the outcome and the address of the next instruction. Only the return from a call
moves the program counter in both places.

A host that sees no more than the outcome can tell how far the program counter moved, unless the
outcome is a jump or the instruction is a return. `goesOn_of_step` says this beside the list. It
holds in every state, within the bounds or not, so jumps to odd addresses and past the end of memory
are included.
-/

namespace ChipEight

/-- The instructions that set the program counter themselves. -/
def Instruction.SetsCounter : Instruction → Prop
  | .jump _ | .call _ | .jumpOffset _ | .callReturn => True
  | _ => False

namespace Processor

variable {s t : Processor} {i : Instruction} {o : Outcome}

/-- The test of an instruction holds, so that the following instruction is skipped. -/
def Skips (s : Processor) : Instruction → Prop
  | .skipIfByte x kk => s.reg x = kk
  | .skipUnlessByte x kk => s.reg x ≠ kk
  | .skipIfEqual x y => s.reg x = s.reg y
  | .skipUnlessEqual x y => s.reg x ≠ s.reg y
  | .skipIfHeld x => ∃ key : Key, key.val = (s.reg x).toNat % 16 ∧ s.keypad.isDown key = true
  | .skipUnlessHeld x => ∃ key : Key, key.val = (s.reg x).toNat % 16 ∧ s.keypad.isDown key = false
  | _ => False

/-- The instruction waits for a key, and its wait begins or all keys that are held are marked. -/
def Waits (s : Processor) : Instruction → Prop
  | .awaitKey _ =>
    s.waiting = true → ∀ key, s.keypad.isDown key = true → s.keypad.isLatched key = true
  | _ => False

/-- **Where control goes on**: the outcome of an instruction, and the program counter after it. -/
inductive GoesOn (s : Processor) : Instruction → Outcome → Int → Prop
  /-- `1nnn` jumps. -/
  | jump (a : Address) : GoesOn s (.jump a) .jump a.val
  /-- `2nnn` jumps as well. -/
  | call (a : Address) : GoesOn s (.call a) .jump a.val
  /-- `Bnnn` adds the first register to its address, and does not reduce the sum. -/
  | jumpOffset (a : Address) : GoesOn s (.jumpOffset a) .jump (a.val + (s.reg 0).toNat)
  /-- `00EE` goes behind the call whose address is on top of the call stack. -/
  | callReturn {top : Int} {rest : List Int} (hframes : s.registers.stack.frames = top :: rest) :
    GoesOn s .callReturn .next (top + 2)
  /-- `Fx0A` stays while it waits. -/
  | wait {i : Instruction} (hwaits : s.Waits i) : GoesOn s i .wait s.registers.pc
  /-- `3xkk`, `4xkk`, `5xy0`, `9xy0`, `Ex9E` and `ExA1` skip if their test holds. -/
  | skip {i : Instruction} (hskips : s.Skips i) : GoesOn s i .skip (s.registers.pc + 4)
  /-- In every other case control goes to the following instruction. -/
  | next {i : Instruction} (hcounter : ¬ i.SetsCounter) (hwaits : ¬ s.Waits i)
    (hskips : ¬ s.Skips i) : GoesOn s i .next (s.registers.pc + 2)

/-! ### Tests and waits -/

/-- A test of a condition skips exactly if the condition holds. -/
theorem goesOn_of_condition {condition : Bool} (hcounter : ¬ i.SetsCounter) (hwaits : ¬ s.Waits i)
    (hskips : s.Skips i ↔ condition = true) :
    s.GoesOn i (if condition then .skip else .next)
      (s.registers.pc + (if condition then Outcome.skip else .next).stride) := by
  cases condition with
  | true => exact .skip (hskips.2 rfl)
  | false => exact .next hcounter hwaits fun h ↦ Bool.false_ne_true (hskips.1 h)

/-- A key's number names it. -/
theorem exists_key_iff {P : Key → Prop} (x : Reg) :
    (∃ key : Key, key.val = (s.reg x).toNat % 16 ∧ P key) ↔ P (s.namedKey x) := by
  constructor
  · rintro ⟨key, hkey, h⟩
    obtain rfl : key = s.namedKey x := Fin.ext hkey
    exact h
  · exact fun h ↦ ⟨s.namedKey x, rfl, h⟩

/-- A wait goes on exactly if no key that is held is fresh. -/
theorem waits_awaitKey_iff (x : Reg) :
    s.Waits (.awaitKey x) ↔ s.watched.firstFresh? = none := by
  rw [Keypad.firstFresh?_eq_none_iff, watched]
  show (s.waiting = true → ∀ key, s.keypad.isDown key = true → s.keypad.isLatched key = true) ↔ _
  cases s.waiting with
  | true => simp
  | false =>
    -- The wait begins, so the keys that are held have just been marked.
    simp [Keypad.isDown_latch, Keypad.isLatched_latch]

/-! ### Steps -/

/-- **An instruction goes on by the list**, once its outcome has moved the program counter. -/
theorem goesOn_of_execute (h : s.execute i = .ok (o, t)) :
    s.GoesOn i o (t.registers.pc + o.stride) := by
  have f := footprint_of_execute h
  rw [f.counter, f.outcome]
  cases i
  case jump a =>
    show s.GoesOn (.jump a) .jump (a.val + 0)
    rw [Int.add_zero]
    exact .jump a
  case call a =>
    show s.GoesOn (.call a) .jump (a.val + 0)
    rw [Int.add_zero]
    exact .call a
  case jumpOffset a =>
    show s.GoesOn (.jumpOffset a) .jump (a.val + (s.reg 0).toNat + 0)
    rw [Int.add_zero]
    exact .jumpOffset a
  case callReturn =>
    rw [execute_callReturn] at h
    split at h
    · cases h
    · rename_i top rest hframes
      show s.GoesOn .callReturn .next (s.registers.stack.frames.headD 0 + 2)
      rw [hframes]
      exact .callReturn hframes
  case skipIfByte x kk => exact goesOn_of_condition id id beq_iff_eq.symm
  case skipUnlessByte x kk => exact goesOn_of_condition id id bne_iff_ne.symm
  case skipIfEqual x y => exact goesOn_of_condition id id beq_iff_eq.symm
  case skipUnlessEqual x y => exact goesOn_of_condition id id bne_iff_ne.symm
  case skipIfHeld x => exact goesOn_of_condition id id (exists_key_iff x)
  case skipUnlessHeld x =>
    refine goesOn_of_condition id id ((exists_key_iff x).trans ?_)
    rw [Bool.not_eq_true']
  case awaitKey x =>
    show s.GoesOn (.awaitKey x) (if s.watched.firstFresh?.isNone then .wait else .next)
      (s.registers.pc + (if s.watched.firstFresh?.isNone then Outcome.wait else .next).stride)
    rcases hfresh : s.watched.firstFresh? with - | key
    · show s.GoesOn (.awaitKey x) .wait (s.registers.pc + 0)
      rw [Int.add_zero]
      exact .wait ((waits_awaitKey_iff x).2 hfresh)
    · refine .next id (fun hwaits ↦ ?_) id
      rw [(waits_awaitKey_iff x).1 hwaits] at hfresh
      cases hfresh
  -- The others have no test.
  all_goals exact .next id id id

/-- The current opcode plays no part in the list. -/
theorem GoesOn.of_withOpcode {opcode : Nat} {pc : Int} (h : GoesOn { s with opcode } i o pc) :
    s.GoesOn i o pc := by
  cases h with
  | jump a => exact .jump a
  | call a => exact .call a
  | jumpOffset a => exact .jumpOffset a
  | callReturn hframes => exact .callReturn hframes
  | wait hwaits => exact .wait hwaits
  | skip hskips => exact .skip hskips
  | next hcounter hwaits hskips => exact .next hcounter hwaits hskips

/-- What the outcome alone tells. -/
theorem GoesOn.eq_stride {pc : Int} (h : s.GoesOn i o pc) (hjump : o ≠ .jump)
    (hreturn : i ≠ .callReturn) : pc = s.registers.pc + o.stride := by
  cases h with
  | jump | call | jumpOffset => exact absurd rfl hjump
  | callReturn => exact absurd rfl hreturn
  | wait => exact (Int.add_zero _).symm
  | skip => rfl
  | next => rfl

/-- **Control goes on by the list.** A step that succeeds has the outcome, and leaves the program
counter, that the list shows for the instruction at the program counter. For every outcome but a
jump, and for every instruction but a return, the program counter has moved by as much as the
outcome names. -/
theorem goesOn_of_step (h : s.step = (.ok o, t)) :
    ∃ i spare, s.fetch = .ok (Instruction.toWord i spare) ∧ s.GoesOn i o t.registers.pc ∧
      (o ≠ .jump → i ≠ .callReturn → t.registers.pc = s.registers.pc + o.stride) := by
  obtain ⟨i, u, hdecode, hfetch, hdone, rfl⟩ := step_eq_ok h
  have hword := Instruction.toWord_of_ofWord? hdecode
  have hgoes : s.GoesOn i o (u.settle o).registers.pc := by
    rw [settle_eq]
    exact (goesOn_of_execute hdone).of_withOpcode
  exact ⟨i, _, by rw [hfetch, hword], hgoes, hgoes.eq_stride⟩

/-- A program at the end of its routine, which it has just called from the first address. -/
def returning : Processor :=
  (bare #[0x20, 0x04, 0x00, 0x00, 0x00, 0xEE]).on .step

/-- The return jumps back to the call, and its outcome moves the program counter behind it. -/
theorem goesOn_of_step_returning :
    returning.step.1 = .ok .next ∧ returning.registers.stack.frames = [0] ∧
      ∃ i spare, returning.fetch = .ok (Instruction.toWord i spare) ∧
        returning.GoesOn i .next returning.step.2.registers.pc ∧
        returning.step.2.registers.pc = 2 := by
  have hstart : returning.step.1 = .ok .next ∧ returning.registers.stack.frames = [0] ∧
      returning.step.2.registers.pc = 2 := by
    decide +kernel
  obtain ⟨hnext, hframes, hpc⟩ := hstart
  obtain ⟨i, spare, hfetch, hgoes, -⟩ := goesOn_of_step (Prod.ext hnext rfl)
  exact ⟨hnext, hframes, i, spare, hfetch, hgoes, hpc⟩

end Processor

end ChipEight
