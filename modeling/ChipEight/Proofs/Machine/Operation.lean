import ChipEight.Proofs.Machine.Stages

/-!
# Runs of a machine

A machine that is switched on can be asked for a frame, for a single step, to return to power-on, to
load a program, and to show its display. A run is any list of these operations. An operation that
fails leaves a machine behind as well, and the run goes on from there, so theorems about runs cover
every failure on the way.

To its core an operation is made of a few changes: the events of a processor, the display being
noted as shown, a program being loaded, and the return to power-on that loads the last program
again. `CoreInvariant` collects what a property has to survive, and `CoreInvariant.afterAll` is the
induction over runs, done once.
-/

namespace ChipEight

variable {α : Type}

namespace Machine

/-- What a machine that is switched on can be asked for. -/
inductive Operation (α : Type)
  /-- A frame, given the time elapsed, the events reported and the time of the poll. -/
  | frame (elapsed : α) (events : List HostEvent) (now : α)
  /-- One instruction. -/
  | step
  /-- The return to power-on. -/
  | reset
  /-- The loading of a program, which may be too large. -/
  | load (program : List UInt8)
  /-- The display shown, if it changed. -/
  | refresh

variable [TimeNumber α]

/-- The machine after an operation, whether the operation fails or not. -/
def operate (m : Machine α) : Operation α → Machine α
  | .frame elapsed events now => (m.runFrame elapsed events now).2
  | .step => m.step.2
  | .reset => m.reset.2
  | .load program => (m.load program).2
  | .refresh => m.refreshDisplay.2

/-- The machine after a run. -/
def afterAll (m : Machine α) (operations : List (Operation α)) : Machine α :=
  operations.foldl operate m

end Machine

/-! ### Properties of the core -/

/-- A property that no operation but the loading of a program can break. -/
structure CoreInvariant (P : Processor → Prop) : Prop where
  /-- It survives every event. -/
  on : ∀ s event, P s → P (s.on event)
  /-- It survives the display being noted as shown. -/
  shown : ∀ s : Processor, P s → P { s with display := s.display.shown }
  /-- It survives the return to power-on, with any program loaded again. -/
  restarted : ∀ s program, P s → P ((Machine.resetCore s).loaded program)

namespace CoreInvariant

variable {P : Processor → Prop} (hP : CoreInvariant P) {m : Machine α}

include hP

theorem ticks {s : Processor} (h : P s) (count : Nat) :
    P (s.withRegisters (s.registers.ticks count)) := by
  induction count with
  | zero => rwa [Registers.ticks_zero]
  | succ n ih =>
    rw [Registers.ticks_succ]
    exact hP.on _ .tick ih

theorem step (h : P m.core) : P m.step.2.core := by
  rw [Machine.core_step]
  exact hP.on m.core .step h

theorem refreshDisplay (h : P m.core) : P m.refreshDisplay.2.core := by
  unfold Machine.refreshDisplay Machine.showDisplay
  split
  · dsimp only
    split
    · exact h
    · exact hP.shown _ h
  · exact h

variable [TimeNumber α]

theorem poll (h : P m.core) (events : List HostEvent) (now : α) :
    P (m.poll events now).2.core := by
  unfold Machine.poll
  dsimp only
  split
  · exact Inputs.poll_invariant (Q := fun keypad ↦ P { m.core with keypad })
      (fun _ key hk ↦ hP.on _ (.press key) hk) (fun _ key hk ↦ hP.on _ (.release key) hk)
      m.inputs events now h
  · exact h

theorem runCycles (h : P m.core) (cycles : Nat) : P (Machine.runCycles cycles m).2.core := by
  obtain ⟨_, hrun⟩ := m.exists_runCycles cycles
  rw [hrun]
  exact Processor.burst_invariant (fun s hs ↦ hP.on s .step hs) h cycles

theorem runInstructions (h : P m.core) (elapsed : α) : P (m.runInstructions elapsed).2.core := by
  unfold Machine.runInstructions
  split
  · exact h
  · refine hP.runCycles ?_ _
    exact h

theorem runTimers (h : P m.core) (elapsed : α) : P (m.runTimers elapsed).2.core := by
  unfold Machine.runTimers
  split
  · exact h
  · exact hP.ticks h _

/-- A frame passes the core from stage to stage, and ends with the first stage that fails. -/
theorem runFrame (h : P m.core) (elapsed : α) (events : List HostEvent) (now : α) :
    P (m.runFrame elapsed events now).2.core := by
  rw [Machine.runFrame_eq]
  refine Machine.andThen_invariant (P := fun n ↦ P n.core) (hP.poll h events now)
    fun quit polled hpolled ↦ ?_
  cases quit
  · refine Machine.andThen_invariant (P := fun n ↦ P n.core) (hP.runInstructions hpolled elapsed)
      fun _ ran hran ↦ ?_
    refine Machine.andThen_invariant (P := fun n ↦ P n.core) (hP.runTimers hran elapsed)
      fun _ ticked hticked ↦ ?_
    refine Machine.andThen_invariant (P := fun n ↦ P n.core) (hP.refreshDisplay hticked)
      fun _ shown hshown ↦ ?_
    show P (shown.setBuzzer _).core
    rwa [Machine.setBuzzer_core]
  · exact hpolled

/-- **One operation.** A property that survives the loading of the programs concerned survives an
operation. -/
theorem operate (h : P m.core) (op : Machine.Operation α)
    (hload : ∀ program, op = .load program → ∀ s, P s → P (s.loaded program)) :
    P (m.operate op).core := by
  cases op with
  | frame elapsed events now => exact hP.runFrame h elapsed events now
  | step => exact hP.step h
  | reset =>
    show P m.reset.2.core
    rw [Machine.core_reset]
    exact hP.restarted _ _ h
  | load program =>
    show P (m.load program).2.core
    rw [Machine.core_load]
    exact hload program rfl _ h
  | refresh => exact hP.refreshDisplay h

/-- **Runs.** A property that survives the loading of the programs concerned survives a run. -/
theorem afterAll (h : P m.core) (operations : List (Machine.Operation α))
    (hload : ∀ program, .load program ∈ operations → ∀ s, P s → P (s.loaded program)) :
    P (m.afterAll operations).core := by
  induction operations generalizing m with
  | nil => exact h
  | cons op rest ih =>
    have hop : P (m.operate op).core :=
      hP.operate h op fun program heq ↦ hload program (heq ▸ List.mem_cons_self)
    exact ih hop fun program hmem ↦ hload program (List.mem_cons_of_mem op hmem)

/-- **Runs from power-on.** -/
theorem of_create (hinitial : ∀ random, P (Processor.initial random)) {renderer : Renderer}
    {inputs : Inputs α} {audio : Audio} {speed : Setting α} {debugger : Debugger}
    {seed : Setting Int} {keypadShared : Bool}
    (h : Machine.create renderer inputs audio speed debugger seed keypadShared = .ok m)
    (operations : List (Machine.Operation α))
    (hload : ∀ program, .load program ∈ operations → ∀ s, P s → P (s.loaded program)) :
    P (m.afterAll operations).core := by
  obtain ⟨random, hcore⟩ := Machine.core_create h
  have hstart : P m.core := hcore ▸ hinitial random
  exact hP.afterAll hstart operations hload

end CoreInvariant

end ChipEight
