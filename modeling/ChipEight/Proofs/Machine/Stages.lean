import ChipEight.Proofs.Machine.Core
import ChipEight.Proofs.Processor.Burst

/-!
# The stages of an operation

What each stage of an operation does to a machine, as one equation: the fields that the stage
writes, by name, and every other field as it was. The journal and the device that sounds the buzzer
are outputs that nothing in a machine reads, so the equations leave them open.

A frame is its stages one after another (`runFrame_eq`), so what each stage keeps, a frame keeps
(`andThen_invariant`). Where the renderer has room for the display and memory has its usual size,
nothing but the processor, the inputs and the arithmetic of time can fail: the display is shown, and
a return to power-on succeeds.
-/

namespace ChipEight

variable {α : Type}

/-! ### Accounts of time -/

/-- The rate of a clock stays. -/
theorem TickClock.rate_advance [TimeNumber α] (c : TickClock α) (elapsed : α) :
    (c.advance elapsed).2.rate = c.rate := by
  unfold advance
  split
  · rfl
  · dsimp only
    split <;> rfl

/-- The speed of a budget stays. -/
theorem CycleBudget.speed_grant [TimeNumber α] (b : CycleBudget α) (elapsed : α) :
    (b.grant elapsed).2.speed = b.speed := by
  unfold grant
  split
  · rfl
  · dsimp only
    split <;> rfl

namespace Machine

variable {β γ : Type} {m : Machine α}

/-! ### Equations of the stages -/

/-- The fields that a run of cycles writes. How it ends for the core decides whether it fails, and
whether the credit is forfeited. -/
theorem exists_runCycles [TimeNumber α] (m : Machine α) (cycles : Nat) :
    ∃ journal, runCycles cycles m =
      ((m.core.burst cycles).1.map fun _ ↦ (),
        { m with
          core := (m.core.burst cycles).2
          budget := if (m.core.burst cycles).1 = .ok .wait then m.budget.forfeit else m.budget
          operations := m.operations + (m.core.attempts cycles).length
          journal }) := by
  -- The rest of a burst starts from the machine after its first step, so the machine is general.
  induction cycles generalizing m with
  | zero => exact ⟨m.journal, rfl⟩
  | succ cycles ih =>
    obtain ⟨journal, hstep⟩ := exists_step { m with operations := m.operations + 1 }
    unfold runCycles
    rw [hstep]
    obtain ⟨result, t, hresult, hends⟩ | ⟨o, t, hresult, ho⟩ := m.core.ends_or_goes
    · rw [Processor.burst_succ_of_ends hresult hends,
        Processor.attempts_succ_of_ends hresult hends, hresult]
      rcases result with failure | o
      · exact ⟨journal, rfl⟩
      · rw [hends o rfl]
        exact ⟨journal, rfl⟩
    · have hcount : m.operations + (t.attempts cycles).length.succ =
          m.operations + 1 + (t.attempts cycles).length := by omega
      rw [Processor.burst_succ_of_goes hresult ho, Processor.attempts_succ_of_goes hresult ho,
        hresult, List.length_cons, hcount]
      cases o
      case wait => exact absurd rfl ho
      all_goals exact ih _

/-- **Showing the display** to a renderer that was prepared for it succeeds. The fields that it
writes. -/
theorem exists_refreshDisplay (h : m.renderer.Fits m.core.display.pixels.size) :
    ∃ renderer framesShown journal, renderer.Fits m.core.display.pixels.size ∧
      m.refreshDisplay = (.ok (), { m with
        core := { m.core with display := m.core.display.shown }
        renderer, framesShown, journal }) := by
  unfold refreshDisplay
  by_cases hdirty : m.core.display.dirty
  · obtain ⟨shown, calls, hrefresh, hfits⟩ := Renderer.refresh_of_fits h
    rw [if_pos hdirty]
    unfold showDisplay
    dsimp only [record]
    rw [hrefresh]
    exact ⟨shown, _, _, hfits, rfl⟩
  · -- A display that is not due is as it would be after it was shown.
    have hshown : m.core.display.shown = m.core.display := by
      unfold Display.shown
      rw [← Bool.eq_false_iff.2 hdirty]
    rw [if_neg hdirty, hshown]
    exact ⟨m.renderer, m.framesShown, m.journal, h, rfl⟩

/-- The fields that showing the display writes, whether it succeeds or not. -/
theorem exists_refreshDisplay_fields (m : Machine α) :
    ∃ result dirty renderer framesShown journal, m.refreshDisplay = (result, { m with
      core := { m.core with display := { m.core.display with dirty } }
      renderer, framesShown, journal }) := by
  unfold refreshDisplay showDisplay
  split
  · dsimp only
    split
    · exact ⟨_, m.core.display.dirty, _, _, _, rfl⟩
    · exact ⟨_, false, _, _, _, rfl⟩
  · exact ⟨_, m.core.display.dirty, _, _, _, rfl⟩

/-! ### Loading -/

/-- **A program that is too large** is refused, and nothing changes. -/
theorem load_of_gt {program : List UInt8} (h : maxProgramSize < program.length) :
    m.load program =
      (.error (.fault (.programTooLarge programStart program.length)), m) := by
  unfold load checkProgramSize
  rw [if_pos h]
  rfl

/-- A program that is not too large is accepted. The fields that loading it writes. -/
theorem exists_load {program : List UInt8} (hsize : m.core.memory.size = 4096)
    (h : program.length ≤ maxProgramSize) :
    ∃ journal, m.load program =
      (.ok (), { m with core := m.core.loaded program, program, journal }) := by
  have hinside : ¬ m.core.memory.Outside programStart program.length := by
    have hmax : maxProgramSize = 3584 := rfl
    have hstart : (programStart : Int) = 512 := rfl
    unfold Memory.Outside
    omega
  have hloaded : m.core.loaded program =
      { m.core with memory := m.core.memory.setBytes programStart program } :=
    if_neg (not_or.2 ⟨Nat.not_lt.2 h, hinside⟩)
  unfold load checkProgramSize
  rw [if_neg (Nat.not_lt.2 h), Memory.writeBlock_eq, if_neg hinside, hloaded]
  exact ⟨_, rfl⟩

/-! ### One part after another -/

/-- One part of an operation after another. A failure of the first is the end of it. -/
def andThen (first : Except Failure β × Machine α)
    (next : β → Machine α → Except Failure γ × Machine α) : Except Failure γ × Machine α :=
  match first with
  | (.error failure, m) => (.error failure, m)
  | (.ok result, m) => next result m

/-- What the first part keeps, and the second part keeps whatever the first one left, both parts
keep together. -/
theorem andThen_invariant {P : Machine α → Prop} {first : Except Failure β × Machine α}
    {next : β → Machine α → Except Failure γ × Machine α} (hfirst : P first.2)
    (hnext : ∀ result n, P n → P (next result n).2) : P (andThen first next).2 := by
  obtain ⟨failure | result, n⟩ := first
  · exact hfirst
  · exact hnext result n hfirst

/-- Both parts of an operation that succeeds succeed. -/
theorem exists_of_andThen_eq_ok {first : Except Failure β × Machine α}
    {next : β → Machine α → Except Failure γ × Machine α} {result : γ} {n : Machine α}
    (h : andThen first next = (.ok result, n)) :
    ∃ between k, first = (.ok between, k) ∧ next between k = (.ok result, n) := by
  obtain ⟨failure | between, k⟩ := first
  · cases h
  · exact ⟨between, k, rfl, h⟩

variable [TimeNumber α]

/-! ### The return to power-on -/

/-- **The return to power-on** succeeds. The fields that it writes. -/
theorem exists_reset (hsize : m.core.memory.size = 4096)
    (hprogram : m.program.length ≤ maxProgramSize) :
    ∃ audio journal, m.reset = (.ok (), { m with
      core := (resetCore m.core).loaded m.program
      timers := m.timers.reset
      budget := m.budget.forfeit
      buzzing := false
      audio, journal }) := by
  obtain ⟨audio, journal, hbuzzer⟩ := exists_setBuzzer { m with
    core := resetCore m.core
    timers := m.timers.reset
    budget := m.budget.forfeit } false
  unfold reset
  rw [hbuzzer]
  dsimp only
  by_cases hempty : m.program.isEmpty
  · rw [if_pos hempty, List.isEmpty_iff.1 hempty, Processor.loaded_nil]
    exact ⟨audio, journal, rfl⟩
  · rw [if_neg hempty]
    have hcleared : (resetCore m.core).memory.size = 4096 := by
      show (m.core.memory.clear.setBytes Font.address Font.glyphs).size = 4096
      rw [Memory.size_setBytes, Memory.size_clear, hsize]
    obtain ⟨journal, hload⟩ := exists_load (m := { m with
      core := resetCore m.core
      timers := m.timers.reset
      budget := m.budget.forfeit
      buzzing := false
      audio, journal }) hcleared hprogram
    exact ⟨audio, journal, hload⟩

/-! ### Frames -/

section Time

variable {elapsed : α} {failure : Failure}

theorem runInstructions_of_error {budget : CycleBudget α}
    (h : m.budget.grant elapsed = (.error failure, budget)) :
    m.runInstructions elapsed = (.error failure, { m with budget }) := by
  unfold runInstructions
  rw [h]

/-- The fields that the instructions of a frame write, once their number is known. -/
theorem exists_runInstructions {cycles : Int} {budget : CycleBudget α}
    (h : m.budget.grant elapsed = (.ok cycles, budget)) :
    ∃ operations journal, m.runInstructions elapsed =
      ((m.core.burst cycles.toNat).1.map fun _ ↦ (),
        { m with
          core := (m.core.burst cycles.toNat).2
          budget := if (m.core.burst cycles.toNat).1 = .ok .wait then budget.forfeit else budget
          operations, journal }) := by
  obtain ⟨journal, hrun⟩ := exists_runCycles { m with budget } cycles.toNat
  unfold runInstructions
  rw [h]
  exact ⟨_, journal, hrun⟩

theorem runTimers_of_error {timers : TickClock α}
    (h : m.timers.advance elapsed = (.error failure, timers)) :
    m.runTimers elapsed = (.error failure, { m with timers }) := by
  unfold runTimers
  rw [h]

/-- The fields that the ticks of a frame write, once their number is known. -/
theorem runTimers_of_ok {ticks : Int} {timers : TickClock α}
    (h : m.timers.advance elapsed = (.ok ticks, timers)) :
    m.runTimers elapsed = (.ok (), { m with
      core := m.core.withRegisters (m.core.registers.ticks ticks.toNat)
      timers }) := by
  unfold runTimers
  rw [h]
  rfl

end Time

/-- **A frame is its stages, one after another.** -/
theorem runFrame_eq (m : Machine α) (elapsed : α) (events : List HostEvent) (now : α) :
    m.runFrame elapsed events now =
      andThen (m.poll events now) fun quit m ↦
        if quit then (.ok false, m)
        else andThen (m.runInstructions elapsed) fun _ m ↦
          andThen (m.runTimers elapsed) fun _ m ↦
            andThen m.refreshDisplay fun _ m ↦
              (.ok true, (m.setBuzzer (m.core.registers.st > 0)).record (.frame elapsed)) := by
  unfold runFrame andThen
  rcases m.poll events now with ⟨failure | quit, polled⟩
  · rfl
  · cases quit
    · dsimp only
      rcases polled.runInstructions elapsed with ⟨failure | done, ran⟩
      · rfl
      · dsimp only
        rcases ran.runTimers elapsed with ⟨failure | done, ticked⟩
        · rfl
        · dsimp only
          rcases ticked.refreshDisplay with ⟨failure | done, shown⟩
          · rfl
          · rfl
    · rfl

/-- **A frame that completes** went through all its stages. -/
theorem exists_stages_of_runFrame {elapsed now : α} {events : List HostEvent} {n : Machine α}
    (h : m.runFrame elapsed events now = (.ok true, n)) :
    ∃ polled ran ticked shown, m.poll events now = (.ok false, polled) ∧
      polled.runInstructions elapsed = (.ok (), ran) ∧ ran.runTimers elapsed = (.ok (), ticked) ∧
      ticked.refreshDisplay = (.ok (), shown) ∧
      n = (shown.setBuzzer (shown.core.registers.st > 0)).record (.frame elapsed) := by
  rw [runFrame_eq] at h
  obtain ⟨quit, polled, hpoll, hrest⟩ := exists_of_andThen_eq_ok h
  cases quit
  case true => cases hrest
  rw [if_neg Bool.false_ne_true] at hrest
  obtain ⟨_, ran, hran, hrest⟩ := exists_of_andThen_eq_ok hrest
  obtain ⟨_, ticked, hticked, hrest⟩ := exists_of_andThen_eq_ok hrest
  obtain ⟨_, shown, hshown, hrest⟩ := exists_of_andThen_eq_ok hrest
  exact ⟨polled, ran, ticked, shown, hpoll, hran, hticked, hshown, (Prod.mk.inj hrest).2.symm⟩

/-- A frame whose poll lets the machine go on. -/
theorem runFrame_of_poll {elapsed : α} {events : List HostEvent} {now : α} {polled : Machine α}
    (h : m.poll events now = (.ok false, polled)) :
    m.runFrame elapsed events now =
      andThen (polled.runInstructions elapsed) fun _ m ↦
        andThen (m.runTimers elapsed) fun _ m ↦
          andThen m.refreshDisplay fun _ m ↦
            (.ok true, (m.setBuzzer (m.core.registers.st > 0)).record (.frame elapsed)) := by
  rw [runFrame_eq, h]
  rfl

/-- A frame whose poll fails or asks to quit is over with it. -/
theorem runFrame_of_ne {elapsed : α} {events : List HostEvent} {now : α}
    {result : Except Failure Bool} {polled : Machine α} (h : m.poll events now = (result, polled))
    (hresult : result ≠ .ok false) : (m.runFrame elapsed events now).2 = polled := by
  rw [runFrame_eq, h]
  rcases result with failure | quit
  · rfl
  · cases quit
    · exact absurd rfl hresult
    · rfl

end Machine

end ChipEight
