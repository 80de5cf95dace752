import ChipEight.Proofs.Instruction.Word
import ChipEight.Proofs.Processor.Execution

/-!
# One step, taken apart

A step fetches a word, finds its instruction, executes it and moves the program counter. This module
states each of these stages as one condition and one result, and then the step as a whole, from the
micro-operations up (`stepWith_eq`): a step that succeeds executed the instruction of the word at
the program counter (`step_eq_ok`), and a step that fails leaves everything but the current opcode
(`step_eq_error`).
-/

namespace ChipEight.Processor

/-! ### Fetching -/

/-- The word at the program counter: two bytes of memory, the most significant first. -/
def word (s : Processor) : Nat :=
  256 * (s.memory.byteAt s.registers.pc.toNat).toNat +
    (s.memory.byteAt (s.registers.pc.toNat + 1)).toNat

theorem fetch_eq (s : Processor) :
    s.fetch =
      if s.memory.Outside s.registers.pc 2 then
        .error (.fault (.memoryAccess s.registers.pc 2))
      else .ok s.word := by
  rw [fetch, Memory.readBlock_eq]
  split
  · rfl
  · rename_i h
    rw [show (2 : Int) = (2 : Nat) from rfl, Memory.block_eq_map h]
    show Except.ok (256 * (256 * 0 + _) + _) = Except.ok s.word
    rw [Nat.mul_zero, Nat.zero_add]
    rfl

theorem fetch_eq_ok_iff {s : Processor} {w : Nat} :
    s.fetch = .ok w ↔ ¬ s.memory.Outside s.registers.pc 2 ∧ s.word = w := by
  rw [fetch_eq]
  split <;> simp [*]

/-- Fetching looks at memory and the program counter only. -/
theorem fetch_congr {s t : Processor} (hmemory : t.memory = s.memory)
    (hpc : t.registers.pc = s.registers.pc) : t.fetch = s.fetch := by
  rw [fetch, fetch, hmemory, hpc]

/-! ### The step -/

theorem decode_eq (s : Processor) (w : Nat) :
    s.decode w =
      match Instruction.ofWord? w with
      | none => .error (.fault (.unknownOpcode w s.registers.pc))
      | some i => .ok i := by
  have hdecode : Instruction.ofOpcode? w = Instruction.ofWord? w := by
    rw [Instruction.ofOpcode?, if_neg (by omega), Int.toNat_natCast]
  unfold decode Instruction.decodeAt
  rw [hdecode]
  cases Instruction.ofWord? w <;> rfl

/-- What a word comes to: its instruction is executed, and the program counter moved by the
outcome. -/
def perform (s : Processor) (w : Nat) : Except Failure (Outcome × Processor) :=
  match Instruction.ofWord? w with
  | none => .error (.fault (.unknownOpcode w s.registers.pc))
  | some i => (s.execute i).map fun done ↦ (done.1, done.2.settle done.1)

/-- The line of a step, if the step reaches an instruction: it shows the registers in front of the
step and the word that the step fetches. -/
def traceLine? (s : Processor) : Option String :=
  match s.fetch with
  | .error _ => none
  | .ok w => (Instruction.ofWord? w).map fun i ↦ Trace.line s.registers w i.text

/-- **A step at work**, whether it is traced or not: it keeps the word that it fetches, prints its
line, and performs the word or fails with nothing else done. -/
theorem stepWith_eq (live : Bool) (s : Processor) :
    s.stepWith live =
      match s.fetch with
      | .error failure => (.error failure, ⟨s, []⟩)
      | .ok w =>
        Bench.after ⟨{ s with opcode := w }, if live then s.traceLine?.toList else []⟩
          (perform { s with opcode := w } w) := by
  unfold stepWith cycle traceLine? perform
  simp only [Micro.run_bind, Micro.run_core, Micro.run_ofResult, Micro.run_change, run_handle,
    decode_eq]
  rcases s.fetch with failure | w
  · rfl
  · dsimp only
    rcases Instruction.ofWord? w with - | i
    · cases live <;> rfl
    · dsimp only
      rcases execute { s with opcode := w } i with failure | ⟨outcome, t⟩ <;> cases live <;> rfl

/-- A trace changes neither the result of a step nor the state after it. -/
theorem stepWith_eq_step (live : Bool) (s : Processor) :
    s.stepWith live = (s.step.1, ⟨s.step.2, if live then s.traceLine?.toList else []⟩) := by
  unfold step
  rw [stepWith_eq, stepWith_eq false]
  rcases hfetch : s.fetch with failure | w
  · have hline : s.traceLine? = none := by
      unfold traceLine?
      rw [hfetch]
    rw [hline]
    cases live <;> rfl
  · dsimp only
    rcases perform { s with opcode := w } w with failure | ⟨outcome, t⟩ <;> rfl

/-- A step fetches a word and performs it. A failure leaves the state as it was, except that a word
which was fetched is kept. -/
theorem step_eq_perform (s : Processor) :
    s.step =
      match s.fetch with
      | .error failure => (.error failure, s)
      | .ok w =>
        match perform { s with opcode := w } w with
        | .error failure => (.error failure, { s with opcode := w })
        | .ok done => (.ok done.1, done.2) := by
  unfold step
  rw [stepWith_eq]
  rcases s.fetch with failure | w
  · rfl
  · dsimp only
    rcases perform { s with opcode := w } w with failure | ⟨outcome, t⟩ <;> rfl

/-- **A step, by what it meets.** -/
theorem step_eq (s : Processor) :
    s.step =
      if s.memory.Outside s.registers.pc 2 then
        (.error (.fault (.memoryAccess s.registers.pc 2)), s)
      else
        match Instruction.ofWord? s.word with
        | none =>
          (.error (.fault (.unknownOpcode s.word s.registers.pc)), { s with opcode := s.word })
        | some i =>
          match { s with opcode := s.word }.execute i with
          | .error failure => (.error failure, { s with opcode := s.word })
          | .ok (outcome, t) => (.ok outcome, t.settle outcome) := by
  rw [step_eq_perform, fetch_eq]
  by_cases houtside : s.memory.Outside s.registers.pc 2
  · rw [if_pos houtside, if_pos houtside]
  · rw [if_neg houtside, if_neg houtside]
    dsimp only
    unfold perform
    rcases Instruction.ofWord? s.word with - | i
    · rfl
    · dsimp only
      cases execute { s with opcode := s.word } i <;> rfl

/-- **A step that succeeds** executes the instruction of the word at the program counter and moves
the program counter by the outcome. -/
theorem step_eq_ok {s t : Processor} {outcome : Outcome} (h : s.step = (.ok outcome, t)) :
    ∃ i u, Instruction.ofWord? s.word = some i ∧ s.fetch = .ok s.word ∧
      { s with opcode := s.word }.execute i = .ok (outcome, u) ∧ t = u.settle outcome := by
  rw [step_eq] at h
  split at h
  · cases h
  · rename_i hinside
    split at h
    · cases h
    · rename_i i hdecode
      split at h
      · cases h
      · rename_i o u hdone
        cases h
        exact ⟨i, u, hdecode, fetch_eq_ok_iff.2 ⟨hinside, rfl⟩, hdone, rfl⟩

/-- In front of an instruction's word, a step executes that instruction. -/
theorem step_of_execute {s t : Processor} {outcome : Outcome} (i : Instruction) (spare : Nibble)
    (hfetch : s.fetch = .ok (i.toWord spare))
    (hdone : { s with opcode := i.toWord spare }.execute i = .ok (outcome, t)) :
    s.step = (.ok outcome, t.settle outcome) := by
  obtain ⟨hinside, hword⟩ := fetch_eq_ok_iff.1 hfetch
  rw [step_eq, if_neg hinside, hword, Instruction.ofWord?_toWord]
  dsimp only
  rw [hdone]

/-- The opcode that a step leaves behind if it fails: the word it fetched, or the opcode before it
if it fetched none. -/
def fetchedOpcode (s : Processor) : Nat :=
  match s.fetch with
  | .ok w => w
  | .error _ => s.opcode

/-- **A step that fails** leaves everything as it was, but for the opcode. -/
theorem step_eq_error {s t : Processor} {failure : Failure} (h : s.step = (.error failure, t)) :
    t = { s with opcode := s.fetchedOpcode } := by
  rw [step_eq] at h
  rw [fetchedOpcode, fetch_eq]
  split at h
  · cases h
    rw [if_pos ‹_›]
  · rw [if_neg ‹_›]
    split at h
    · cases h
      rfl
    · split at h <;> cases h
      rfl

end ChipEight.Processor
