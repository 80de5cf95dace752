import ChipEight.Proofs.Machine.Action
import Mathlib.Data.List.Infix

/-!
# Calls and returns

A call pushes its own address and jumps; a return jumps back to that address, and its outcome moves
the program counter past the call. So a routine returns to the instruction behind its call only if
the call's address is again on top of the stack when it returns, whatever the routine has called in
between.

An event adds at most one address to the call stack or takes at most one away
(`frames_on`). Hence the addresses below some depth stay what they are for as long as the stack does
not sink below that depth: `suffix_after` is the invariant, by induction over the events. A routine
is the special case in which that depth is the depth after its call. Nothing is assumed about what
the routine does to memory, and steps that fail on the way leave the call stack alone.
-/

namespace ChipEight.Processor

variable {s t : Processor} {events : List Event} {base : List Int}

/-! ### The addresses in progress -/

/-- The addresses on the call stack, the most recent first. -/
def frames (s : Processor) : List Int :=
  s.registers.stack.frames

/-- A call adds its address, a return takes the most recent one away, and no other instruction
touches the call stack. -/
theorem nextStack_frames (s : Processor) (i : Instruction) :
    (s.nextStack i).frames = s.frames ∨ (s.nextStack i).frames = s.registers.pc :: s.frames ∨
      (s.nextStack i).frames = s.frames.tail := by
  cases i
  case call a => exact .inr (.inl rfl)
  case callReturn => exact .inr (.inr rfl)
  all_goals exact .inl rfl

/-- The call stack after a step. -/
theorem stack_step (s : Processor) :
    s.step.2.registers.stack = s.registers.stack ∨
      ∃ i, s.step.2.registers.stack = s.nextStack i := by
  rcases hstep : s.step with ⟨failure | o, t⟩
  · rw [step_eq_error hstep]
    exact .inl rfl
  · obtain ⟨i, u, -, f, rfl⟩ := footprint_of_step hstep
    exact .inr ⟨i, f.stack⟩

/-- **What an event does to the call stack.** -/
theorem frames_on (s : Processor) (event : Event) :
    (s.on event).frames = s.frames ∨ (s.on event).frames = s.registers.pc :: s.frames ∨
      (s.on event).frames = s.frames.tail := by
  cases event with
  | step =>
    rcases stack_step s with hsame | ⟨i, hnext⟩
    · exact .inl (congrArg CallStack.frames hsame)
    · have hframes : (s.on .step).frames = (s.nextStack i).frames :=
        congrArg CallStack.frames hnext
      rw [hframes]
      exact nextStack_frames s i
  | tick => exact .inl rfl
  | press key => exact .inl rfl
  | release key => exact .inl rfl

/-- No event changes how many addresses the call stack takes. -/
theorem capacity_on (s : Processor) (event : Event) :
    (s.on event).registers.stack.capacity = s.registers.stack.capacity := by
  cases event with
  | step =>
    rcases stack_step s with hsame | ⟨i, hnext⟩
    · exact congrArg CallStack.capacity hsame
    · exact (congrArg CallStack.capacity hnext).trans (nextStack_capacity i)
  | tick => rfl
  | press key => rfl
  | release key => rfl

theorem capacity_after (s : Processor) (events : List Event) :
    (s.after events).registers.stack.capacity = s.registers.stack.capacity :=
  after_invariant (P := fun t ↦ t.registers.stack.capacity = s.registers.stack.capacity)
    (fun t event h ↦ (capacity_on t event).trans h) rfl events

/-! ### What lies below a depth stays -/

/-- An event leaves the lowest addresses alone, unless it makes the call stack shorter than them. -/
theorem suffix_on (h : base <:+ s.frames) (event : Event)
    (hdepth : base.length ≤ (s.on event).frames.length) : base <:+ (s.on event).frames := by
  rcases frames_on s event with hsame | hpushed | hpopped
  · rwa [hsame]
  · rw [hpushed]
    exact h.trans (List.suffix_cons ..)
  · rw [hpopped] at hdepth ⊢
    exact List.suffix_of_suffix_length_le h (List.tail_suffix _) hdepth

/-- **What lies below a depth stays** for as long as no event of a run makes the call stack shorter
than that. -/
theorem suffix_after (h : base <:+ s.frames)
    (hdepth : ∀ run, run <+: events → base.length ≤ (s.after run).frames.length) :
    base <:+ (s.after events).frames := by
  induction events generalizing s with
  | nil => exact h
  | cons event rest ih =>
    have hfirst : base.length ≤ (s.on event).frames.length :=
      hdepth [event] ⟨rest, rfl⟩
    refine ih (suffix_on h event hfirst) fun run hrun ↦ ?_
    exact hdepth (event :: run) ((List.prefix_cons_inj event).2 hrun)

/-! ### The call and the return -/

/-- The state after a call for which the call stack has room. -/
theorem on_step_of_call {a : Address} (hfetch : s.fetch = .ok (addressWord 0x2 a))
    (hroom : (s.registers.stack.depth : Int) < s.registers.stack.capacity) :
    (s.on .step).frames = s.registers.pc :: s.frames := by
  have hdone : execute { s with opcode := addressWord 0x2 a } (.call a) = _ :=
    (execute_call _ a).trans (if_neg (Int.not_le.2 hroom))
  have hstep := step_of_execute (.call a) 0 hfetch hdone
  show s.step.2.frames = s.registers.pc :: s.frames
  rw [hstep]
  rfl

/-- The state after a return to an address: the address is gone, and the program counter is past
the call that pushed it. -/
theorem on_step_of_return {address : Int} {rest : List Int} (hfetch : s.fetch = .ok 0x00EE)
    (hframes : s.frames = address :: rest) :
    (s.on .step).frames = rest ∧ (s.on .step).registers.pc = address + 2 := by
  have hdone : execute { s with opcode := 0x00EE } .callReturn = .ok (.next, withRegisters
      { s with opcode := 0x00EE } { s.registers with
        pc := address, stack := { s.registers.stack with frames := rest } }) := by
    rw [execute_callReturn]
    change s.registers.stack.frames = address :: rest at hframes
    rw [hframes]
  have hstep := step_of_execute .callReturn 0 hfetch hdone
  show s.step.2.frames = rest ∧ s.step.2.registers.pc = address + 2
  rw [hstep]
  exact ⟨rfl, rfl⟩

/-- **A routine returns behind its call.** Take a call at depth `d`, a run of events after it in
which the call stack never gets shorter than `d + 1` addresses, and a return at depth `d + 1`. Up to
that return the lowest `d + 1` addresses are those of the call; the return restores the call stack
in front of the call, and leads to the instruction behind it. -/
theorem call_returns (h : s.Reached) {a : Address} (hcall : s.fetch = .ok (addressWord 0x2 a))
    (hroom : s.registers.stack.depth < 16)
    (hinside : ∀ run, run <+: events →
      s.registers.stack.depth + 1 ≤ (s.after (.step :: run)).registers.stack.depth)
    (hreturn : (s.after (.step :: events)).fetch = .ok 0x00EE)
    (hdepth : (s.after (.step :: events)).registers.stack.depth = s.registers.stack.depth + 1) :
    (s.after (.step :: events ++ [.step])).registers.stack = s.registers.stack ∧
      (s.after (.step :: events ++ [.step])).registers.pc = s.registers.pc + 2 ∧
      ∀ run, run <+: events →
        (s.after (.step :: run)).registers.stack.items.take (s.registers.stack.depth + 1) =
          s.registers.stack.items ++ [s.registers.pc] := by
  have hbase : (s.on .step).frames = s.registers.pc :: s.frames := by
    refine on_step_of_call hcall ?_
    rw [h.sound.capacity]
    omega
  have hlowest {run : List Event} (hrun : run <+: events) :
      s.registers.pc :: s.frames <:+ (s.after (.step :: run)).frames := by
    have hstart : s.registers.pc :: s.frames <:+ (s.on .step).frames := hbase ▸ List.suffix_rfl
    show s.registers.pc :: s.frames <:+ ((s.on .step).after run).frames
    exact suffix_after hstart fun run' hrun' ↦ hinside run' (hrun'.trans hrun)
  -- At the return nothing is left above the addresses of the call.
  have hframes : (s.after (.step :: events)).frames = s.registers.pc :: s.frames :=
    ((hlowest List.prefix_rfl).eq_of_length hdepth.symm).symm
  obtain ⟨hrest, hpc⟩ := on_step_of_return hreturn hframes
  have hfinal : s.after (.step :: events ++ [.step]) = (s.after (.step :: events)).on .step :=
    List.foldl_concat ..
  refine ⟨?_, ?_, fun run hrun ↦ ?_⟩
  · rw [hfinal]
    have hcapacity := capacity_after s (.step :: events ++ [.step])
    rw [hfinal] at hcapacity
    calc ((s.after (.step :: events)).on .step).registers.stack
        = ⟨s.registers.stack.capacity, s.frames⟩ := by rw [← hcapacity, ← hrest]; rfl
      _ = s.registers.stack := rfl
  · rw [hfinal, hpc]
  · have hitems : s.registers.stack.items ++ [s.registers.pc] =
        (s.registers.pc :: s.frames).reverse := List.reverse_cons.symm
    have hlength : (s.registers.stack.items ++ [s.registers.pc]).length =
        s.registers.stack.depth + 1 := by
      rw [hitems, List.length_reverse]
      rfl
    have hprefix : s.registers.stack.items ++ [s.registers.pc] <+:
        (s.after (.step :: run)).registers.stack.items := by
      rw [hitems]
      exact List.reverse_prefix.2 (hlowest hrun)
    rw [← hlength]
    exact (List.prefix_iff_eq_take.1 hprefix).symm

/-- A machine at power-on whose program calls a routine that calls another one. -/
def nestedCalls : Processor :=
  (initial (Twister.ofSeed 1)).loaded [0x22, 0x04, 0x00, 0x00, 0x22, 0x08, 0x00, 0xEE, 0x00, 0xEE]

/-- The outer call of two: its routine makes a call of its own, and the timers tick within it. -/
theorem call_returns_nested :
    nestedCalls.fetch = .ok (addressWord 0x2 0x204) ∧
      (nestedCalls.after (.step :: [.step, .tick, .step] ++ [.step])).registers.stack =
        nestedCalls.registers.stack ∧
      (nestedCalls.after (.step :: [.step, .tick, .step] ++ [.step])).registers.pc =
        nestedCalls.registers.pc + 2 := by
  -- One evaluation for all of the run.
  have hrun : nestedCalls.fetch = .ok (addressWord 0x2 0x204) ∧
      (∀ run ∈ [.step, .tick, .step].inits, nestedCalls.registers.stack.depth + 1 ≤
        (nestedCalls.after (.step :: run)).registers.stack.depth) ∧
      (nestedCalls.after (.step :: [.step, .tick, .step])).fetch = .ok 0x00EE ∧
      (nestedCalls.after (.step :: [.step, .tick, .step])).registers.stack.depth =
        nestedCalls.registers.stack.depth + 1 ∧ nestedCalls.registers.stack.depth < 16 := by
    decide +kernel
  obtain ⟨hcall, hinside, hreturn, hdepth, hroom⟩ := hrun
  have hreached : nestedCalls.Reached := reached_loaded 1 _
  have hreturns := call_returns hreached hcall hroom
    (fun run hrun ↦ hinside run ((List.mem_inits ..).2 hrun)) hreturn hdepth
  exact ⟨hcall, hreturns.1, hreturns.2.1⟩

end ChipEight.Processor
