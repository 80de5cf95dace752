import ChipEight.Proofs.Machine.Attempts
import ChipEight.Proofs.Machine.Running
import ChipEight.Proofs.Processor.Reseeded

/-!
# Twin machines

Two machines that run with the same settings and differ in nothing that they act on but the source
of random bytes. They may have different renderers, audio devices and debuggers, and different
histories behind them: what they show and say goes out of the machine and does not come back.

Twins stay twins. Each stage of an operation does the same to both, with one exception: an
instruction that draws a random byte. So the condition is on the states that one of the two machines
attempts instructions from, and the theorem on runs (`Twin.afterActions`) says that the other one
passes through the same states.
-/

namespace ChipEight

/-- Loading a program does not look at the source of random bytes. -/
theorem Processor.loaded_withRandom (s : Processor) (random : Twister) (program : List UInt8) :
    (s.withRandom random).loaded program = (s.loaded program).withRandom random := by
  unfold loaded
  rw [apply_ite fun t : Processor ↦ t.withRandom random]
  rfl

namespace Machine

variable {α : Type} {m n : Machine α}

variable [TimeNumber α]

/-! ### Twins -/

/-- Two machines that run with the same settings and program, and act alike but for the source of
random bytes that the second one has. -/
structure Twin (speed : α) (keypadShared : Bool) (program : List UInt8) (random : Twister)
    (m n : Machine α) : Prop where
  /-- What the first one runs with. -/
  left : Running speed keypadShared program m
  /-- What the second one runs with. -/
  right : Running speed keypadShared program n
  /-- The cores differ in the source of random bytes. -/
  core : n.core = m.core.withRandom random
  /-- The same account of timer ticks. -/
  timers : n.timers = m.timers
  /-- The same account of cycles. -/
  budget : n.budget = m.budget
  /-- The same buzzer. -/
  buzzing : n.buzzing = m.buzzing
  /-- The same inputs. -/
  inputs : n.inputs = m.inputs

variable {β γ : Type} {speed : α} {keypadShared : Bool} {program : List UInt8}
  {random : Twister}

/-- What a part of an operation came to in twins: the same result, and twins again. -/
def TwinResults (speed : α) (keypadShared : Bool) (program : List UInt8) (random : Twister)
    (a b : Except Failure β × Machine α) : Prop :=
  b.1 = a.1 ∧ Twin speed keypadShared program random a.2 b.2

/-- Parts that twins go through alike, one after another. -/
theorem TwinResults.andThen {a b : Except Failure β × Machine α}
    {next : β → Machine α → Except Failure γ × Machine α}
    (h : TwinResults speed keypadShared program random a b)
    (hnext : ∀ result, a.1 = .ok result → Twin speed keypadShared program random a.2 b.2 →
      TwinResults speed keypadShared program random (next result a.2) (next result b.2)) :
    TwinResults speed keypadShared program random (andThen a next) (andThen b next) := by
  obtain ⟨hresult, htwin⟩ := h
  obtain ⟨resultA, m⟩ := a
  obtain ⟨resultB, n⟩ := b
  obtain rfl : resultB = resultA := hresult
  rcases resultB with failure | result
  · exact ⟨rfl, htwin⟩
  · exact hnext result rfl htwin

namespace Twin

variable (h : Twin speed keypadShared program random m n)

include h

/-! ### Stages -/

theorem poll (events : List HostEvent) (now : α) :
    TwinResults speed keypadShared program random (m.poll events now) (n.poll events now) := by
  have hpoll : n.inputs.poll events now n.core.keypad = m.inputs.poll events now m.core.keypad := by
    rw [h.inputs, h.core]
    rfl
  have hshared : n.keypadShared = m.keypadShared := h.right.shared.trans h.left.shared.symm
  have hcore : (n.poll events now).2.core = (m.poll events now).2.core.withRandom random := by
    unfold Machine.poll
    rw [hpoll, hshared, h.core, apply_ite fun t : Processor ↦ t.withRandom random]
    rfl
  have hresult : (n.poll events now).1 = (m.poll events now).1 := congrArg (·.1) hpoll
  refine ⟨hresult, ?_⟩
  exact { h with
    left := h.left.poll events now
    right := h.right.poll events now
    core := hcore
    inputs := congrArg (·.2.1) hpoll }

theorem step (hdraws : ¬ m.core.DrawsRandom) :
    TwinResults speed keypadShared program random m.step n.step := by
  have hstep := Processor.step_withRandom hdraws random
  rw [← h.core] at hstep
  have hleft := h.left.step
  have hright := h.right.step
  obtain ⟨journal, hm⟩ := m.exists_step
  obtain ⟨journal', hn⟩ := n.exists_step
  rw [hm] at hleft ⊢
  rw [hn] at hright ⊢
  have hresult : n.core.step.1 = m.core.step.1 := congrArg (·.1) hstep
  refine ⟨hresult, ?_⟩
  exact { h with left := hleft, right := hright, core := congrArg (·.2) hstep }

/-- The instructions of a frame: the same states in front of them, and the same outcome. -/
theorem runInstructions (elapsed : α) (hdraws : ∀ s ∈ m.attemptsWithin elapsed, ¬ s.DrawsRandom) :
    n.attemptsWithin elapsed = (m.attemptsWithin elapsed).map (fun s ↦ s.withRandom random) ∧
      TwinResults speed keypadShared program random
        (m.runInstructions elapsed) (n.runInstructions elapsed) := by
  have hleft := h.left.runInstructions elapsed
  have hright := h.right.runInstructions elapsed
  unfold attemptsWithin at hdraws ⊢
  -- Equal budgets grant equal numbers of cycles, so the bursts are equally long.
  rw [h.budget]
  rcases hgrant : m.budget.grant elapsed with ⟨failure | cycles, budget⟩
  · rw [runInstructions_of_error hgrant] at hleft ⊢
    rw [runInstructions_of_error (h.budget ▸ hgrant)] at hright ⊢
    exact ⟨rfl, rfl, { h with left := hleft, right := hright, budget := rfl }⟩
  · rw [hgrant] at hdraws
    obtain ⟨hattempts, hburst⟩ := Processor.burst_withRandom random hdraws
    rw [← h.core] at hattempts hburst
    obtain ⟨_, _, hm⟩ := exists_runInstructions hgrant
    obtain ⟨_, _, hn⟩ := exists_runInstructions (h.budget ▸ hgrant : n.budget.grant elapsed = _)
    rw [hm] at hleft ⊢
    rw [hn] at hright ⊢
    refine ⟨hattempts, congrArg (fun ran ↦ ran.1.map fun _ ↦ ()) hburst, ?_⟩
    exact { h with
      left := hleft
      right := hright
      core := congrArg (·.2) hburst
      budget := congrArg
        (fun ran ↦ if ran.1 = .ok .wait then budget.forfeit else budget) hburst }

theorem runTimers (elapsed : α) :
    TwinResults speed keypadShared program random (m.runTimers elapsed) (n.runTimers elapsed) := by
  have hleft := h.left.runTimers elapsed
  have hright := h.right.runTimers elapsed
  rcases hadvance : m.timers.advance elapsed with ⟨failure | ticks, timers⟩
  · rw [runTimers_of_error hadvance] at hleft ⊢
    rw [runTimers_of_error (h.timers ▸ hadvance)] at hright ⊢
    exact ⟨rfl, { h with left := hleft, right := hright, timers := rfl }⟩
  · rw [runTimers_of_ok hadvance] at hleft ⊢
    rw [runTimers_of_ok (h.timers ▸ hadvance)] at hright ⊢
    refine ⟨rfl, { h with left := hleft, right := hright, timers := rfl, core := ?_ }⟩
    dsimp only
    rw [h.core]
    rfl

theorem refreshDisplay :
    TwinResults speed keypadShared program random m.refreshDisplay n.refreshDisplay := by
  have hleft := h.left.refreshDisplay
  have hright := h.right.refreshDisplay
  obtain ⟨_, _, _, -, hm⟩ := exists_refreshDisplay h.left.fits_display
  obtain ⟨_, _, _, -, hn⟩ := exists_refreshDisplay h.right.fits_display
  rw [hm] at hleft ⊢
  rw [hn] at hright ⊢
  refine ⟨rfl, { h with left := hleft, right := hright, core := ?_ }⟩
  dsimp only
  rw [h.core]
  rfl

/-- The end of a frame: the buzzer follows the sound timer, which twins have in common. -/
theorem settleFrame (elapsed : α) :
    Twin speed keypadShared program random
      ((m.setBuzzer (m.core.registers.st > 0)).record (.frame elapsed))
      ((n.setBuzzer (n.core.registers.st > 0)).record (.frame elapsed)) := by
  have hsound : n.core.registers.st = m.core.registers.st := by
    rw [h.core]
    rfl
  have hleft := (h.left.setBuzzer (m.core.registers.st > 0)).record (.frame elapsed)
  have hright := (h.right.setBuzzer (n.core.registers.st > 0)).record (.frame elapsed)
  obtain ⟨_, _, hm⟩ := m.exists_setBuzzer (m.core.registers.st > 0)
  obtain ⟨_, _, hn⟩ := n.exists_setBuzzer (n.core.registers.st > 0)
  rw [hm] at hleft ⊢
  rw [hn] at hright ⊢
  exact { h with
    left := hleft
    right := hright
    buzzing := congrArg (fun st : Int ↦ decide (st > 0)) hsound }

/-! ### Operations -/

/-- **A frame** in twins. -/
theorem runFrame (elapsed : α) (events : List HostEvent) (now : α)
    (hdraws : ∀ s ∈ m.attempts (.operation (.frame elapsed events now)), ¬ s.DrawsRandom) :
    n.attempts (.operation (.frame elapsed events now)) =
        (m.attempts (.operation (.frame elapsed events now))).map (fun s ↦ s.withRandom random) ∧
      TwinResults speed keypadShared program random
        (m.runFrame elapsed events now) (n.runFrame elapsed events now) := by
  obtain ⟨hresult, hpolled⟩ := h.poll events now
  rw [runFrame_eq, runFrame_eq]
  rcases hm : m.poll events now with ⟨result, polled⟩
  rcases hn : n.poll events now with ⟨result', polled'⟩
  rw [hm, hn] at hresult hpolled
  obtain rfl : result' = result := hresult
  -- Only a poll that lets the machine go on is followed by instructions.
  by_cases hgoes : result' = .ok false
  · subst hgoes
    rw [attempts_frame_of_poll hm] at hdraws ⊢
    rw [attempts_frame_of_poll hn]
    obtain ⟨hattempts, hran⟩ := hpolled.runInstructions elapsed hdraws
    refine ⟨hattempts, hran.andThen fun _ _ hran ↦ ?_⟩
    refine (hran.runTimers elapsed).andThen fun _ _ hticked ↦ ?_
    exact hticked.refreshDisplay.andThen fun _ _ hshown ↦ ⟨rfl, hshown.settleFrame elapsed⟩
  · rw [attempts_frame_of_ne hm hgoes, attempts_frame_of_ne hn hgoes]
    refine ⟨rfl, ?_⟩
    rcases result' with failure | quit
    · exact ⟨rfl, hpolled⟩
    · cases quit
      · exact absurd rfl hgoes
      · exact ⟨rfl, hpolled⟩

theorem load (loaded : List UInt8) :
    Twin speed keypadShared ((accepted? (α := α) (.operation (.load loaded))).getD program) random
      (m.load loaded).2 (n.load loaded).2 := by
  have hleft := h.left.act (.operation (.load loaded))
  have hright := h.right.act (.operation (.load loaded))
  change Running speed keypadShared _ (m.load loaded).2 at hleft
  change Running speed keypadShared _ (n.load loaded).2 at hright
  by_cases hsize : loaded.length ≤ maxProgramSize
  · obtain ⟨_, hm⟩ := exists_load h.left.sound.memory hsize
    obtain ⟨_, hn⟩ := exists_load h.right.sound.memory hsize
    rw [hm] at hleft ⊢
    rw [hn] at hright ⊢
    refine { h with left := hleft, right := hright, core := ?_ }
    dsimp only
    rw [h.core, Processor.loaded_withRandom]
  · have hgt : maxProgramSize < loaded.length := Nat.lt_of_not_le hsize
    rw [load_of_gt hgt] at hleft ⊢
    rw [load_of_gt hgt] at hright ⊢
    exact { h with left := hleft, right := hright }

theorem reset : Twin speed keypadShared program random m.reset.2 n.reset.2 := by
  have hleft := h.left.reset
  have hright := h.right.reset
  obtain ⟨_, _, hm⟩ := exists_reset h.left.sound.memory (h.left.program ▸ h.left.size)
  obtain ⟨_, _, hn⟩ := exists_reset h.right.sound.memory (h.right.program ▸ h.right.size)
  rw [hm] at hleft ⊢
  rw [hn] at hright ⊢
  refine { h with
    left := hleft
    right := hright
    timers := congrArg TickClock.reset h.timers
    budget := congrArg CycleBudget.forfeit h.budget
    buzzing := rfl
    core := ?_ }
  dsimp only
  rw [h.core, h.right.program, h.left.program]
  exact Processor.loaded_withRandom (resetCore m.core) random program

/-- An event of the core in twins. -/
theorem on (event : Event) (hdraws : event = .step → ¬ m.core.DrawsRandom) :
    Twin speed keypadShared program random
      { m with core := m.core.on event } { n with core := n.core.on event } := by
  refine { h with left := h.left.on event, right := h.right.on event, core := ?_ }
  dsimp only
  rw [h.core]
  exact Processor.on_withRandom random event hdraws

/-! ### Runs of actions -/

/-- **One action** in twins: the same states in front of the instructions that it attempts, and
twins after it. -/
theorem act (action : Action α) (hdraws : ∀ s ∈ m.attempts action, ¬ s.DrawsRandom) :
    n.attempts action = (m.attempts action).map (fun s ↦ s.withRandom random) ∧
      Twin speed keypadShared ((accepted? action).getD program) random
        (m.act action) (n.act action) := by
  have hstep : [n.core] = [m.core].map (fun s ↦ s.withRandom random) := congrArg ([·]) h.core
  cases action with
  | event event =>
    cases event with
    | step => exact ⟨hstep, h.on .step fun _ ↦ hdraws m.core List.mem_cons_self⟩
    | tick => exact ⟨rfl, h.on .tick fun hevent ↦ by cases hevent⟩
    | press key => exact ⟨rfl, h.on (.press key) fun hevent ↦ by cases hevent⟩
    | release key => exact ⟨rfl, h.on (.release key) fun hevent ↦ by cases hevent⟩
  | operation op =>
    cases op with
    | frame elapsed events now =>
      obtain ⟨hattempts, hrun⟩ := h.runFrame elapsed events now hdraws
      exact ⟨hattempts, hrun.2⟩
    | step => exact ⟨hstep, (h.step (hdraws m.core List.mem_cons_self)).2⟩
    | reset => exact ⟨rfl, h.reset⟩
    | load loaded => exact ⟨rfl, h.load loaded⟩
    | refresh => exact ⟨rfl, h.refreshDisplay.2⟩

omit h

/-- **A run of actions** that draws no random byte takes twins through the same states. The
induction is on the actions, each of which starts from twins. -/
theorem afterActions (h : Twin speed keypadShared program random m n) (actions : List (Action α))
    (hdraws : ∀ s ∈ m.attemptsAll actions, ¬ s.DrawsRandom) :
    n.attemptsAll actions = (m.attemptsAll actions).map (fun s ↦ s.withRandom random) ∧
      ∃ program, Twin speed keypadShared program random
        (m.afterActions actions) (n.afterActions actions) := by
  induction actions generalizing m n program with
  | nil => exact ⟨rfl, program, h⟩
  | cons action rest ih =>
    obtain ⟨hattempts, hact⟩ := h.act action fun s hs ↦ hdraws s (List.mem_append_left _ hs)
    obtain ⟨hrest, hafter⟩ := ih hact fun s hs ↦ hdraws s (List.mem_append_right _ hs)
    refine ⟨?_, hafter⟩
    show n.attempts action ++ (n.act action).attemptsAll rest = _
    rw [hattempts, hrest, ← List.map_append]
    rfl

end Twin

end Machine

end ChipEight
