import ChipEight.Proofs.Processor.Event
import ChipEight.Proofs.Processor.Step

/-!
# How a step fails

The failure of a step is written here as a function of the state in front of it. Five faults of the
machine can come up, each in one place: the fetch, the decoding, a return, a call, and an access at
the index register. Two more failures are no faults: a delay timer that is no byte, and a display
without pixels.

That function looks at memory, the index register, the program counter and the call stack when it
yields a fault, and at nothing else. A step that fails changes none of these, nor does a tick or a
key. So a faulty step leaves everything but the opcode as it was, and the processor never gets past
it.
-/

namespace ChipEight.Processor

variable {s t : Processor}

/-! ### The failure of an instruction -/

/-- The failure of an access to a block at the index register. -/
def accessFailure? (s : Processor) (size : Int) : Option Failure :=
  if s.memory.Outside s.registers.i size then
    some (.fault (.memoryAccess s.registers.i size))
  else none

/-- The failure of an instruction, if it fails. -/
def executeFailure? (s : Processor) : Instruction → Option Failure
  | .callReturn => if s.registers.stack.frames = [] then some (.fault .stackUnderflow) else none
  | .call _ =>
    if (s.registers.stack.depth : Int) ≥ s.registers.stack.capacity then
      some (.fault (.stackOverflow s.registers.pc s.registers.stack.capacity))
    else none
  | .draw _ _ rows =>
    (s.accessFailure? rows.val).or
      (if s.display.Flat ∧ Sprite.cells (s.memory.block s.registers.i rows.val) ≠ [] then
        some .zeroDivisor
      else none)
  | .readDelay _ =>
    if 0 ≤ s.registers.dt ∧ s.registers.dt < 256 then none
    else some (.notAByte s.registers.dt)
  | .storeDecimal _ => s.accessFailure? 3
  | .storeUpTo x | .loadUpTo x => s.accessFailure? (x.val + 1)
  | _ => none

theorem length_upTo (r : Registers) (x : Reg) : (r.upTo x).length = x.val + 1 := by
  have hx := x.isLt
  simp only [Registers.upTo, List.length_take, Vector.length_toList]
  omega

/-- Storing a block fails exactly as its access does. -/
theorem storeAtIndex_eq_error_iff {block : List UInt8} {failure : Failure} :
    s.storeAtIndex block = .error failure ↔ s.accessFailure? block.length = some failure := by
  rw [storeAtIndex, accessFailure?]
  split <;> simp

/-- **The failure of an instruction** is the one that `executeFailure?` names. -/
theorem execute_eq_error_iff {i : Instruction} {failure : Failure} :
    s.execute i = .error failure ↔ s.executeFailure? i = some failure := by
  cases i
  case callReturn =>
    rw [execute_callReturn]
    show _ ↔ (if s.registers.stack.frames = [] then _ else _) = _
    cases s.registers.stack.frames <;> simp
  case call a =>
    rw [execute_call]
    show _ ↔ (if _ then _ else _) = _
    split <;> simp
  case draw x y rows =>
    rw [execute_draw, drawSprite, Display.draw_eq]
    show _ ↔ (s.accessFailure? rows.val).or _ = _
    rw [accessFailure?]
    split
    · simp
    -- Within memory, drawing fails only for want of pixels, which is no fault.
    · show (Except.map _ (if _ then _ else _) = _) ↔ (if _ then _ else _) = _
      split <;> simp [Except.map]
  case readDelay x =>
    rw [execute_readDelay]
    show _ ↔ (if _ then _ else _) = _
    split <;> simp
  case awaitKey x =>
    rw [execute_awaitKey]
    exact iff_of_false (fun h ↦ by cases h) (fun h ↦ by cases h)
  case storeDecimal x =>
    rw [execute_storeDecimal]
    exact storeAtIndex_eq_error_iff
  case storeUpTo x =>
    rw [execute_storeUpTo, storeAtIndex_eq_error_iff, length_upTo]
    rfl
  case loadUpTo x =>
    rw [execute_loadUpTo]
    show _ ↔ s.accessFailure? (x.val + 1) = _
    rw [accessFailure?]
    split <;> simp
  -- The others cannot fail.
  all_goals exact iff_of_false (fun h ↦ by cases h) (fun h ↦ by cases h)

/-! ### The failure of a step -/

/-- The failure of a step, if it fails. -/
def stepFailure? (s : Processor) : Option Failure :=
  if s.memory.Outside s.registers.pc 2 then some (.fault (.memoryAccess s.registers.pc 2))
  else
    match Instruction.ofWord? s.word with
    | none => some (.fault (.unknownOpcode s.word s.registers.pc))
    | some i => s.executeFailure? i

/-- **The failure of a step** is the one that `stepFailure?` names. -/
theorem step_eq_error_iff {failure : Failure} :
    s.step.1 = .error failure ↔ s.stepFailure? = some failure := by
  rw [step_eq, stepFailure?]
  split
  · simp
  · rcases Instruction.ofWord? s.word with - | i
    · simp
    · have h : execute { s with opcode := s.word } i = .error failure ↔
          s.executeFailure? i = some failure := execute_eq_error_iff
      dsimp only
      rw [← h]
      cases execute { s with opcode := s.word } i <;> simp

/-! ### Faults stay -/

/-- Two states agree on what a fault depends on. -/
structure SameFaults (s t : Processor) : Prop where
  memory : t.memory = s.memory
  index : t.registers.i = s.registers.i
  counter : t.registers.pc = s.registers.pc
  stack : t.registers.stack = s.registers.stack

theorem SameFaults.accessFailure? (h : SameFaults s t) (size : Int) :
    t.accessFailure? size = s.accessFailure? size := by
  rw [Processor.accessFailure?, Processor.accessFailure?, h.memory, h.index]

/-- A fault of an instruction is a fault of it in every state that agrees. -/
theorem SameFaults.executeFailure? (h : SameFaults s t) {i : Instruction} {fault : Fault}
    (hfault : s.executeFailure? i = some (.fault fault)) :
    t.executeFailure? i = some (.fault fault) := by
  cases i
  case callReturn =>
    change (if t.registers.stack.frames = [] then _ else _) = _
    rw [h.stack]
    exact hfault
  case call a =>
    change (if (t.registers.stack.depth : Int) ≥ t.registers.stack.capacity then
      some (Failure.fault (.stackOverflow t.registers.pc t.registers.stack.capacity)) else none) = _
    rw [h.stack, h.counter]
    exact hfault
  case draw x y rows =>
    change (s.accessFailure? rows.val).or _ = _ at hfault
    change (t.accessFailure? rows.val).or _ = _
    rw [h.accessFailure?]
    rcases haccess : s.accessFailure? rows.val with - | failure
    -- Without an access failure only a display without pixels is left, which is no fault.
    · rw [haccess, Option.none_or] at hfault
      split at hfault <;> cases hfault
    · rw [haccess, Option.some_or] at hfault
      exact hfault
  case readDelay x =>
    change (if _ then _ else _) = _ at hfault
    split at hfault <;> cases hfault
  case storeDecimal x => exact (h.accessFailure? _).trans hfault
  case storeUpTo x => exact (h.accessFailure? _).trans hfault
  case loadUpTo x => exact (h.accessFailure? _).trans hfault
  all_goals cases hfault

/-- A fault of a step is the fault of a step from every state that agrees. -/
theorem SameFaults.stepFailure? (h : SameFaults s t) {fault : Fault}
    (hfault : s.stepFailure? = some (.fault fault)) : t.stepFailure? = some (.fault fault) := by
  have hword : t.word = s.word := by rw [word, word, h.memory, h.counter]
  unfold Processor.stepFailure? at hfault ⊢
  rw [h.memory, h.counter, hword]
  split at hfault
  · rename_i houtside
    rw [if_pos houtside]
    exact hfault
  · rename_i hinside
    rw [if_neg hinside]
    rcases hdecode : Instruction.ofWord? s.word with - | i
    · rw [hdecode] at hfault
      exact hfault
    · rw [hdecode] at hfault
      exact h.executeFailure? hfault

/-- Where a step meets a fault, no event changes what the fault depends on. -/
theorem sameFaults_on {fault : Fault} (h : s.step.1 = .error (.fault fault)) (event : Event) :
    SameFaults s (s.on event) := by
  cases event with
  | step =>
    have hstep : s.on .step = { s with opcode := s.fetchedOpcode } :=
      step_eq_error (Prod.ext h rfl)
    rw [hstep]
    exact ⟨rfl, rfl, rfl, rfl⟩
  | tick => exact ⟨rfl, rfl, rfl, rfl⟩
  | press key => exact ⟨rfl, rfl, rfl, rfl⟩
  | release key => exact ⟨rfl, rfl, rfl, rfl⟩

/-- A fault stays in front of the processor through every event. -/
theorem step_on_eq_fault {fault : Fault} (h : s.step.1 = .error (.fault fault)) (event : Event) :
    (s.on event).step.1 = .error (.fault fault) :=
  step_eq_error_iff.2 ((sameFaults_on h event).stepFailure? (step_eq_error_iff.1 h))

/-- Where a step meets a fault, so does every step of every run. -/
theorem results_eq_fault {fault : Fault} (h : s.step.1 = .error (.fault fault))
    (events : List Event) : ∀ result ∈ s.results events, result = .error (.fault fault) := by
  induction events generalizing s with
  | nil => exact fun _ hresult ↦ absurd hresult List.not_mem_nil
  | cons event rest ih =>
    have hrest := ih (step_on_eq_fault h event)
    cases event with
    | step =>
      rw [results_cons_step]
      intro result hresult
      rcases List.mem_cons.1 hresult with rfl | hresult
      · exact h
      · exact hrest result hresult
    | tick => exact hrest
    | press key => exact hrest
    | release key => exact hrest

/-- **A failed step changes nothing, and a fault is final.** Whatever the state, a step that fails
leaves all of it but the opcode as it was. If the failure is a fault, then every later step meets
the same fault, numbers included, whatever ticks and keys come in between. -/
theorem step_error_final {failure : Failure} (h : s.step.1 = .error failure) :
    s.step.2 = { s with opcode := s.fetchedOpcode } ∧
      ∀ fault, failure = .fault fault → ∀ events, ∀ result ∈ s.step.2.results events,
        result = .error (.fault fault) := by
  refine ⟨step_eq_error (Prod.ext h rfl), ?_⟩
  rintro fault rfl events
  exact results_eq_fault (step_on_eq_fault h .step) events

/-- A program that is about to store two registers from the last byte of memory on. -/
def storingPastEnd : Processor :=
  (bare #[0xA0, 0x03, 0xF1, 0x55]).on .step

/-- The first register would fit, but the block does not, so neither is stored, then or later. -/
theorem step_error_final_storingPastEnd :
    storingPastEnd.step.1 = .error (.fault (.memoryAccess 3 2)) ∧
      storingPastEnd.step.2 = { storingPastEnd with opcode := 0xF155 } ∧
      ∀ events, ∀ result ∈ storingPastEnd.step.2.results events,
        result = .error (.fault (.memoryAccess 3 2)) := by
  have hstart : storingPastEnd.step.1 = .error (.fault (.memoryAccess 3 2)) ∧
      storingPastEnd.fetchedOpcode = 0xF155 := by
    decide +kernel
  obtain ⟨hfault, hopcode⟩ := hstart
  obtain ⟨hleft, hfinal⟩ := step_error_final hfault
  rw [hopcode] at hleft
  exact ⟨hfault, hleft, hfinal _ rfl⟩

end ChipEight.Processor
