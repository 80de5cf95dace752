import ChipEight.Proofs.Host.Journal
import ChipEight.Proofs.Host.Poll
import ChipEight.Proofs.Machine.Stages
import ChipEight.Proofs.Processor.Step
import ChipEight.Proofs.TimeNumber.WholeParts

/-!
# Frames that end early

A frame that the host wants to be the last one ends with its poll. A frame that meets a fault ends
with the instruction that faults: the ones before it are done and stay done, the one that faults
changes nothing but the current opcode, is counted and is logged, and the stages behind the
instructions are left out.

How far a frame comes is `Processor.RunsTo`, which counts instructions that neither wait nor fail.
One instruction of a machine is one equation for the machine as a whole (`exists_step_of_ok`,
`exists_step_of_fault`), and the induction over the instructions in front of the fault puts these
together (`exists_runCycles_of_fault`). What the frame is left as is `HaltsAt`, an equation again,
so it also says of each part that it does not name that it did not change.
-/

namespace ChipEight

variable {α : Type}

/-- The entry is a line printed. -/
def Entry.IsLine : Entry α → Prop
  | .line _ => True
  | _ => False

/-- The first state executes some number of instructions, none of which waits or fails, and comes to
the second state. -/
inductive Processor.RunsTo : Processor → Nat → Processor → Prop
  | done (s : Processor) : RunsTo s 0 s
  | step {s t u : Processor} {o : Outcome} {k : Nat} (hstep : s.step = (.ok o, t))
    (ho : o ≠ .wait) (hrest : RunsTo t k u) : RunsTo s (k + 1) u

namespace Machine

variable {m n : Machine α} {s t : Processor} {o : Outcome} {fault : Fault} {k cycles : Nat}

/-! ### One instruction -/

/-- An instruction that succeeds is recorded by its trace line alone, if at all. -/
theorem exists_step_of_ok (h : m.core.step = (.ok o, t)) :
    ∃ printed, m.step = (.ok o, { m with core := t, journal := printed }) ∧
      Journal.Adds Entry.IsLine m.journal printed := by
  refine ⟨_, ?_, Journal.Adds.lines m.journal m.printed fun _ ↦ trivial⟩
  rw [step_eq, h]
  rfl

/-- The machine after some instructions that succeeded and one that faults in front of a state. -/
structure HaltsAt (m : Machine α) (k : Nat) (t : Processor) (n : Machine α) : Prop where
  /-- The instructions before the fault are done, and the one that faults is counted with them. -/
  fields : n = { m with
    core := { t with opcode := t.fetchedOpcode }
    operations := m.operations + (k + 1)
    journal := n.journal }
  /-- One record is logged, which names the address of the instruction that faults. Apart from trace
  lines there is nothing before it. -/
  logged : ∃ printed dump, Journal.Adds Entry.IsLine m.journal printed ∧
    (m.debugger = .absent → dump = "") ∧
    n.journal = printed.push
      (.log .error ("Emulation halted at address 0x" ++ Hex.padded 3 t.registers.pc ++ dump))

/-- An instruction that faults leaves the state in front of it, and is logged. -/
theorem exists_step_of_fault (h : m.core.step.1 = .error (.fault fault)) :
    ∃ n, { m with operations := m.operations + 1 }.step = (.error (.fault fault), n) ∧
      m.HaltsAt 0 m.core n := by
  have hstep : m.core.step =
      (.error (.fault fault), { m.core with opcode := m.core.fetchedOpcode }) :=
    Prod.ext h (Processor.step_eq_error (Prod.ext h rfl))
  have hprinted := Journal.Adds.lines m.journal m.printed (P := Entry.IsLine) fun _ ↦ trivial
  rw [step_eq]
  dsimp only
  rw [hstep]
  refine ⟨_, rfl, rfl, _, _, hprinted, fun habsent ↦ ?_, rfl⟩
  unfold recordLines
  dsimp only
  rw [habsent]

/-! ### Instructions up to a fault -/

/-- What is said of a machine after its first instruction holds of the machine in front of it, with
one instruction more. -/
theorem HaltsAt.succ {printed : Journal α} (hprinted : Journal.Adds Entry.IsLine m.journal printed)
    (h : { m with core := s, operations := m.operations + 1, journal := printed }.HaltsAt k t n) :
    m.HaltsAt (k + 1) t n := by
  obtain ⟨hfields, later, dump, hlater, habsent, hjournal⟩ := h
  refine ⟨?_, later, dump, hprinted.trans hlater, habsent, hjournal⟩
  have hcount : m.operations + 1 + (k + 1) = m.operations + (k + 1 + 1) := by omega
  rw [← hcount]
  exact hfields

/-- **A run of cycles that meets a fault** ends with it. -/
theorem exists_runCycles_of_fault [TimeNumber α] (hruns : s.RunsTo k t) (hcore : m.core = s)
    (hk : k < cycles) (hfault : t.step.1 = .error (.fault fault)) :
    ∃ n, runCycles cycles m = (.error (.fault fault), n) ∧ m.HaltsAt k t n := by
  -- Each instruction in front of the fault takes one cycle and leaves another machine.
  induction hruns generalizing m cycles with
  | done s =>
    obtain ⟨cycles, rfl⟩ := Nat.exists_eq_succ_of_ne_zero hk.ne'
    subst hcore
    obtain ⟨n, hstep, hhalts⟩ := exists_step_of_fault hfault
    refine ⟨n, ?_, hhalts⟩
    rw [runCycles, hstep]
  | @step s after u o k hstep ho hrest ih =>
    obtain ⟨cycles, rfl⟩ := Nat.exists_eq_succ_of_ne_zero (Nat.ne_zero_of_lt hk)
    subst hcore
    obtain ⟨printed, hdone, hprinted⟩ :=
      exists_step_of_ok (m := { m with operations := m.operations + 1 }) hstep
    obtain ⟨n, hrun, hhalts⟩ := ih
      (m := { m with core := after, operations := m.operations + 1, journal := printed }) rfl
      (Nat.lt_of_succ_lt_succ hk) hfault
    refine ⟨n, ?_, hhalts.succ hprinted⟩
    rw [runCycles, hdone]
    cases o
    case wait => exact absurd rfl ho
    all_goals exact hrun

/-! ### Frames -/

/-- The second machine is the first after a poll: nothing but the keypad has changed, and what was
typed at a terminal. -/
structure Polled (m n : Machine α) : Prop where
  fields : n = { m with inputs := n.inputs, core := { m.core with keypad := n.core.keypad } }
  inputs : m.inputs.SameDevice n.inputs

section Scalar

variable {m polled : Machine Scalar} {events : List HostEvent} {now : Float}
  {result : Except Failure Bool} {elapsed total : Scalar} {v : ℚ}

theorem polled_of_poll (hevents : ∀ event ∈ events, event.Valid)
    (hpoll : m.poll events (.real now) = (result, polled)) :
    result = .ok (m.inputs.quits events) ∧ m.Polled polled := by
  obtain ⟨inputs, keypad, hinputs, hsame⟩ := m.inputs.exists_poll hevents now m.core.keypad
  unfold poll at hpoll
  rw [hinputs] at hpoll
  obtain ⟨rfl, rfl⟩ := Prod.mk.inj hpoll
  refine ⟨rfl, ?_, hsame⟩
  dsimp only
  split <;> rfl

/-- **Frames that end early.** A machine in any state runs a frame of valid events, in which its
credit with the cycles of the elapsed time is finite. The poll succeeds, and then:

* if it asks to quit, the frame ends with it, and nothing but the keypad has changed;
* if it does not, and some instructions succeed, within the whole cycles of the credit, the next of
  which faults, the frame fails with that fault and the machine is left as it was in front of the
  instruction, except that its attempts are counted and the fault is logged. Nothing that belongs to
  the timers, to the display's being shown or to the buzzer has changed. -/
theorem frame_quits_or_halts (hevents : ∀ event ∈ events, event.Valid)
    (hpoll : m.poll events (.real now) = (result, polled))
    (hdue : m.budget.due elapsed = .ok total) (hv : total.value? = some v) :
    result = .ok (m.inputs.quits events) ∧ m.Polled polled ∧
    (m.inputs.quits events = true →
      m.runFrame elapsed events (.real now) = (.ok false, polled)) ∧
    (m.inputs.quits events = false → ∀ (k : ℕ) (t : Processor) (fault : Fault),
      (k : ℤ) < ⌊v⌋ → polled.core.RunsTo k t → t.step.1 = .error (.fault fault) →
        ∃ n, m.runFrame elapsed events (.real now) = (.error (.fault fault), n) ∧
          { polled with budget := (m.budget.grant elapsed).2 }.HaltsAt k t n) := by
  obtain ⟨hresult, hpolled⟩ := polled_of_poll hevents hpoll
  refine ⟨hresult, hpolled, fun hquits ↦ ?_, fun hgoes k t fault hk hruns hfault ↦ ?_⟩
  · rw [hresult, hquits] at hpoll
    rw [runFrame_eq, hpoll]
    rfl
  · rw [hresult, hgoes] at hpoll
    have hnonneg : 0 ≤ v := Int.floor_nonneg.1 (by omega)
    obtain ⟨credit, -, hgrant⟩ := CycleBudget.exists_grant hdue hv hnonneg
    have hbudget : polled.budget = m.budget := by rw [hpolled.fields]
    have hcycles : k < ⌊v⌋.toNat := by omega
    obtain ⟨n, hrun, hhalts⟩ := exists_runCycles_of_fault
      (m := { polled with budget := (m.budget.grant elapsed).2 }) hruns rfl hcycles hfault
    refine ⟨n, ?_, hhalts⟩
    have hinstructions : polled.runInstructions elapsed = (.error (.fault fault), n) := by
      rw [hgrant] at hrun
      unfold runInstructions
      rw [hbudget, hgrant]
      exact hrun
    rw [runFrame_of_poll hpoll, hinstructions]
    rfl

/-- A machine of six instructions a second, with a program whose second word is no instruction. -/
def haltingMachine : Machine Scalar :=
  let m := plugged (Renderer.fresh .headless 1 "") .script Audio.silent (.whole 6) .quiet ⟨#[], 0⟩
    true
  { m with core := Processor.bare #[0x60, 0x07, 0x00, 0x00] }

/-- Half a second stands for three instructions, of which one succeeds and the next one faults. With
an event that asks to quit there are none. -/
theorem frame_quits_or_halts_unknownOpcode :
    (∃ n, haltingMachine.runFrame (TimeNumber.ratio 1 2) [.press 3] (.real 0) =
        (.error (.fault (.unknownOpcode 0 2)), n) ∧
      n.core.registers.v.get 0 = 7 ∧ n.operations = 2) ∧
    ∃ n, haltingMachine.runFrame (TimeNumber.ratio 1 2) [.quit, .press 3] (.real 0) =
      (.ok false, n) ∧ n.core.memory = haltingMachine.core.memory := by
  obtain ⟨total, hdue, hv⟩ : ∃ total, haltingMachine.budget.due (TimeNumber.ratio 1 2) = .ok total ∧
      total.value? = some 3 := ⟨_, rfl, by decide +kernel⟩
  have hpoll (events : List HostEvent) : haltingMachine.poll events (.real 0) =
      ((haltingMachine.poll events (.real 0)).1, (haltingMachine.poll events (.real 0)).2) := rfl
  obtain ⟨-, -, -, hhalts⟩ := frame_quits_or_halts (by decide) (hpoll [.press 3]) hdue hv
  obtain ⟨-, -, hquits, -⟩ := frame_quits_or_halts (by decide) (hpoll [.quit, .press 3]) hdue hv
  have hruns : (haltingMachine.poll [.press 3] (.real 0)).2.core.RunsTo 1
      (haltingMachine.poll [.press 3] (.real 0)).2.core.step.2 :=
    .step (o := .next) (Prod.ext (by decide +kernel) rfl) (by decide) (.done _)
  obtain ⟨n, hrun, hn, -⟩ := hhalts rfl 1 _ (.unknownOpcode 0 2) (by decide +kernel) hruns
    (by decide +kernel)
  have hregisters : n.core.registers =
      (haltingMachine.poll [.press 3] (.real 0)).2.core.step.2.registers :=
    congrArg (fun n ↦ n.core.registers) hn
  refine ⟨⟨n, hrun, ?_, congrArg Machine.operations hn⟩, _, hquits rfl, rfl⟩
  rw [hregisters]
  decide +kernel

end Scalar

end Machine

end ChipEight
