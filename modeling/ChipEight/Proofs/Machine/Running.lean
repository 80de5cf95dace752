import ChipEight.Proofs.Machine.Action

/-!
# Machines that run

What stays the same of a machine from power-on through any run of actions. `Running` names the clock
speed, whether the keypad is shared, and the remembered program, and says that the machine has them,
that its core lies within the bounds, that the rate of its timers is the usual one, and that its
renderer has room for the display.

A machine that was created runs without a program (`running_create`). Each stage of an operation
keeps what the machine runs with, and an action changes at most the program: to the one that it
loads, if that is accepted. So the program after a run of actions is the last one that was accepted
(`Running.afterActions`).
-/

namespace ChipEight.Machine

variable {α : Type} [TimeNumber α] {m : Machine α} {keypadShared : Bool}

/-! ### What a machine runs with -/

/-- The machine has this clock speed, this sharing of the keypad and this remembered program, and
works within its bounds. -/
structure Running (speed : α) (keypadShared : Bool) (program : List UInt8) (m : Machine α) :
    Prop where
  /-- The core lies within the bounds. -/
  sound : m.core.Sound
  /-- The renderer has room for the display. -/
  fits : m.renderer.Fits 2048
  /-- The timers have the usual rate. -/
  rate : m.timers.rate = TickClock.ofTimers.rate
  /-- The clock speed. -/
  speed : m.budget.speed = speed
  /-- Whether the inputs act on the machine's own keypad. -/
  shared : m.keypadShared = keypadShared
  /-- The remembered program is not too large. -/
  size : program.length ≤ maxProgramSize
  /-- The remembered program. -/
  program : m.program = program

/-- **A machine that was created** runs without a program. -/
theorem running_create {renderer : Renderer} {inputs : Inputs α} {audio : Audio}
    {speed : Setting α} {debugger : Debugger} {seed : Setting Int}
    (h : create renderer inputs audio speed debugger seed keypadShared = .ok m) :
    ∃ value, speed.valueOr .blankNumber usualSpeed = .ok value ∧
      Running value keypadShared [] m := by
  obtain ⟨value, number, told, journal, hvalue, hfits, rfl⟩ := exists_created h
  exact ⟨value, hvalue, Processor.sound_initial _, hfits, rfl, rfl, rfl, Nat.zero_le _, rfl⟩

namespace Running

variable {speed : α} {program : List UInt8} (h : Running speed keypadShared program m)

include h

theorem poll (events : List HostEvent) (now : α) :
    Running speed keypadShared program (m.poll events now).2 :=
  { h with sound := Processor.coreInvariant_sound.poll h.sound events now }

theorem step : Running speed keypadShared program m.step.2 := by
  have hsound := Processor.coreInvariant_sound.step h.sound
  obtain ⟨journal, hstep⟩ := m.exists_step
  rw [hstep] at hsound ⊢
  exact { h with sound := hsound }

theorem runInstructions (elapsed : α) :
    Running speed keypadShared program (m.runInstructions elapsed).2 := by
  have hsound := Processor.coreInvariant_sound.runInstructions h.sound elapsed
  have hspeed := m.budget.speed_grant elapsed
  rcases hgrant : m.budget.grant elapsed with ⟨failure | cycles, budget⟩
  · rw [hgrant] at hspeed
    rw [runInstructions_of_error hgrant]
    exact { h with speed := hspeed.trans h.speed }
  · rw [hgrant] at hspeed
    obtain ⟨operations, journal, hrun⟩ := exists_runInstructions hgrant
    rw [hrun] at hsound ⊢
    refine { h with sound := hsound, speed := ?_ }
    dsimp only
    -- A wait for a key forfeits the credit, which leaves the speed.
    split
    · exact hspeed.trans h.speed
    · exact hspeed.trans h.speed

theorem runTimers (elapsed : α) : Running speed keypadShared program (m.runTimers elapsed).2 := by
  have hsound := Processor.coreInvariant_sound.runTimers h.sound elapsed
  have hrate := m.timers.rate_advance elapsed
  rcases hadvance : m.timers.advance elapsed with ⟨failure | ticks, timers⟩
  · rw [hadvance] at hrate
    rw [runTimers_of_error hadvance]
    exact { h with rate := hrate.trans h.rate }
  · rw [hadvance] at hrate
    rw [runTimers_of_ok hadvance] at hsound ⊢
    exact { h with sound := hsound, rate := hrate.trans h.rate }

/-- The renderer has room for the display of the machine. -/
theorem fits_display : m.renderer.Fits m.core.display.pixels.size :=
  h.sound.pixels ▸ h.fits

theorem refreshDisplay : Running speed keypadShared program m.refreshDisplay.2 := by
  have hsound := Processor.coreInvariant_sound.refreshDisplay h.sound
  obtain ⟨renderer, framesShown, journal, hfits, hrefresh⟩ := exists_refreshDisplay h.fits_display
  rw [hrefresh] at hsound ⊢
  exact { h with sound := hsound, fits := h.sound.pixels ▸ hfits }

theorem setBuzzer (enabled : Bool) :
    Running speed keypadShared program (m.setBuzzer enabled) := by
  obtain ⟨audio, journal, hbuzzer⟩ := m.exists_setBuzzer enabled
  rw [hbuzzer]
  exact { h with }

theorem record (entry : Entry α) : Running speed keypadShared program (m.record entry) :=
  { h with }

/-- A frame keeps what every stage keeps. -/
theorem runFrame (elapsed : α) (events : List HostEvent) (now : α) :
    Running speed keypadShared program (m.runFrame elapsed events now).2 := by
  rw [runFrame_eq]
  refine andThen_invariant (h.poll events now) fun quit polled hpolled ↦ ?_
  cases quit
  · refine andThen_invariant (hpolled.runInstructions elapsed) fun _ ran hran ↦ ?_
    refine andThen_invariant (hran.runTimers elapsed) fun _ ticked hticked ↦ ?_
    refine andThen_invariant hticked.refreshDisplay fun _ shown hshown ↦ ?_
    exact (hshown.setBuzzer _).record _
  · exact hpolled

theorem reset : Running speed keypadShared program m.reset.2 := by
  have hsize : m.program.length ≤ maxProgramSize := h.program ▸ h.size
  have hsound := h.sound.resetCore.loaded m.program
  obtain ⟨audio, journal, hreset⟩ := exists_reset h.sound.memory hsize
  rw [hreset]
  exact { h with sound := hsound }

theorem on (event : Event) :
    Running speed keypadShared program { m with core := m.core.on event } :=
  { h with sound := h.sound.on event }

end Running

/-! ### The program after a run of actions -/

/-- The program that an action loads, if it loads one that is accepted. -/
def accepted? : Action α → Option (List UInt8)
  | .operation (.load program) => if program.length ≤ maxProgramSize then some program else none
  | _ => none

/-- The program that a run of actions loads last, of those that are accepted. -/
def lastAccepted? (actions : List (Action α)) : Option (List UInt8) :=
  (actions.filterMap accepted?).getLast?

omit [TimeNumber α] in
theorem lastAccepted?_cons (action : Action α) (rest : List (Action α)) :
    lastAccepted? (action :: rest) = (lastAccepted? rest).or (accepted? action) := by
  unfold lastAccepted?
  rcases haccepted : accepted? action with - | program
  · rw [List.filterMap_cons_none haccepted, Option.or_none]
  · rw [List.filterMap_cons_some haccepted, List.getLast?_cons]
    cases (rest.filterMap accepted?).getLast? <;> rfl

namespace Running

variable {speed : α} {program : List UInt8}

/-- **One action** changes what a machine runs with at most by a program that is accepted. -/
theorem act (h : Running speed keypadShared program m) (action : Action α) :
    Running speed keypadShared ((accepted? action).getD program) (m.act action) := by
  cases action with
  | event event => exact h.on event
  | operation op =>
    cases op with
    | frame elapsed events now => exact h.runFrame elapsed events now
    | step => exact h.step
    | reset => exact h.reset
    | refresh => exact h.refreshDisplay
    | load loaded =>
      show Running speed keypadShared
        ((if loaded.length ≤ maxProgramSize then some loaded else none).getD program)
        (m.load loaded).2
      by_cases hsize : loaded.length ≤ maxProgramSize
      · have hsound := h.sound.loaded loaded
        obtain ⟨journal, hload⟩ := exists_load h.sound.memory hsize
        rw [if_pos hsize, hload]
        exact { h with sound := hsound, size := hsize, program := rfl }
      · rw [if_neg hsize, load_of_gt (Nat.lt_of_not_le hsize)]
        exact h

/-- **A run of actions** leaves the last accepted program remembered. -/
theorem afterActions (h : Running speed keypadShared program m) (actions : List (Action α)) :
    Running speed keypadShared ((lastAccepted? actions).getD program) (m.afterActions actions) := by
  induction actions generalizing m program with
  | nil => exact h
  | cons action rest ih =>
    rw [lastAccepted?_cons, Option.getD_or]
    exact ih (h.act action)

end Running

end ChipEight.Machine
