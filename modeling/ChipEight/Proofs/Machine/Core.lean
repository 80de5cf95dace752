import ChipEight.Machine
import ChipEight.Proofs.Host.Picture
import ChipEight.Proofs.Memory.Block
import ChipEight.Proofs.Processor.Event
import ChipEight.Proofs.Processor.Step
import ChipEight.TimeNumber.Scalar

/-!
# What a machine does to its core

The processor is one part of a machine, its core. A poll reaches it through the keypad alone, and
only by pressing and releasing keys, whatever the inputs are (`Inputs.poll_invariant`). The other
operations are equations between the core before and after: a program is loaded (`core_load`), the
core returns to power-on and the last program is loaded again (`core_reset`), one instruction is
attempted (`core_step`). Devices, clocks and the journal leave the core alone.

A machine that was created is known in every field but the journal and what its renderer was told
(`exists_created`).
-/

namespace ChipEight

variable {α : Type}

/-! ### Polls -/

namespace Inputs

variable {Q : Keypad → Prop} (hpress : ∀ k key, Q k → Q (Keypad.press k key))
  (hrelease : ∀ k key, Q k → Q (Keypad.release k key))

include hpress hrelease

theorem windowEvent_invariant (keymap : Keymap) {k : Keypad} (event : HostEvent) (h : Q k) :
    Q (windowEvent keymap k event).2 := by
  unfold windowEvent
  split
  · exact h
  · split
    · exact hpress k _ h
    · exact h
  · split
    · exact h
    · split
      · exact hrelease k _ h
      · exact h
  all_goals exact h

theorem windowEvents_invariant (keymap : Keymap) {k : Keypad} (events : List HostEvent)
    (h : Q k) : Q (windowEvents keymap k events).2 := by
  unfold windowEvents
  generalize false = quit
  induction events generalizing k quit with
  | nil => exact h
  | cons event rest ih => exact ih (windowEvent_invariant hpress hrelease keymap event h) _

theorem scriptEvents_invariant {k : Keypad} (quit : Bool) (events : List HostEvent) (h : Q k) :
    Q (scriptEvents quit events k).2 := by
  induction events generalizing k quit with
  | nil => exact h
  | cons event rest ih =>
    cases event with
    | press key =>
      unfold scriptEvents
      split
      · exact h
      · exact ih quit (hpress k _ h)
    | release key =>
      unfold scriptEvents
      split
      · exact h
      · exact ih quit (hrelease k _ h)
    | quit => exact ih true h
    | keyDown _ | keyUp _ | typed _ | other => exact ih quit h

variable [TimeNumber α]

theorem applyHeld_invariant (keys : TerminalKeys α) (now : α) {k : Keypad} (h : Q k) :
    Q (keys.apply now k) := by
  unfold TerminalKeys.apply
  generalize Key.all = all
  induction all generalizing k with
  | nil => exact h
  | cons key rest ih =>
    rw [List.foldl_cons]
    split
    · exact ih (hpress k key h)
    · exact ih (hrelease k key h)

/-- A poll presses and releases keys, whatever the inputs are, and does nothing else to the
keypad. -/
theorem poll_invariant (inputs : Inputs α) (events : List HostEvent) (now : α) {k : Keypad}
    (h : Q k) : Q (inputs.poll events now k).2.2 := by
  cases inputs with
  | headless => exact h
  | script => exact scriptEvents_invariant hpress hrelease false events h
  | window keymap => exact windowEvents_invariant hpress hrelease keymap events h
  | terminal keys reader =>
    show Q ((keys.resume reader (events.filterMap typed?)).2.poll now k).2.2
    unfold TerminalKeys.poll
    split
    · exact applyHeld_invariant hpress hrelease _ now h
    · exact h

end Inputs

/-! ### Loading -/

/-- A processor with a program stored, if memory has a place for it. -/
def Processor.loaded (s : Processor) (program : List UInt8) : Processor :=
  if program.length > Machine.maxProgramSize ∨ s.memory.Outside programStart program.length then s
  else { s with memory := s.memory.setBytes programStart program }

theorem Processor.loaded_nil (s : Processor) : s.loaded [] = s := by
  unfold loaded
  split <;> rfl

namespace Machine

variable (m : Machine α)

/-- Loading stores the program, if memory has a place for it. -/
theorem core_load (program : List UInt8) : (m.load program).2.core = m.core.loaded program := by
  unfold load checkProgramSize
  rw [Memory.writeBlock_eq]
  by_cases hsize : program.length > maxProgramSize
  · have hloaded : m.core.loaded program = m.core := if_pos (.inl hsize)
    rw [if_pos hsize, hloaded]
    rfl
  · rw [if_neg hsize]
    by_cases houtside : m.core.memory.Outside programStart program.length
    · have hloaded : m.core.loaded program = m.core := if_pos (.inr houtside)
      rw [if_pos houtside, hloaded]
      rfl
    · rw [if_neg houtside, Processor.loaded, if_neg (not_or.2 ⟨hsize, houtside⟩)]
      rfl

/-! ### The buzzer and steps -/

/-- The fields that a change of the buzzer writes. -/
theorem exists_setBuzzer (enabled : Bool) :
    ∃ audio journal, m.setBuzzer enabled = { m with audio, journal, buzzing := enabled } := by
  unfold setBuzzer
  split
  · rename_i henabled
    exact ⟨m.audio, m.journal, henabled ▸ rfl⟩
  · exact ⟨_, _, rfl⟩

theorem setBuzzer_core (enabled : Bool) : (m.setBuzzer enabled).core = m.core := by
  obtain ⟨_, _, hbuzzer⟩ := m.exists_setBuzzer enabled
  rw [hbuzzer]

/-- The lines that a step prints. -/
def printed (m : Machine α) : List String :=
  if m.debugger = .live then m.core.traceLine?.toList else []

/-- **A step of the machine** is one of its core. The lines printed go into the journal, and behind
them the log of a fault. -/
theorem step_eq :
    m.step =
      let n := recordLines { m with core := m.core.step.2 } m.printed
      match m.core.step.1 with
      | .error (.fault _) => (m.core.step.1, n.record (.log .error n.faultText))
      | _ => (m.core.step.1, n) := by
  have hdone := m.core.stepWith_eq_step (m.debugger == .live)
  have hlines : (if (m.debugger == .live) = true then m.core.traceLine?.toList else []) =
      m.printed := if_congr beq_iff_eq rfl rfl
  rw [hlines] at hdone
  unfold step
  generalize m.core.stepWith (m.debugger == .live) = done at hdone ⊢
  subst hdone
  rfl

/-- The fields that a step writes. -/
theorem exists_step :
    ∃ journal, m.step = (m.core.step.1, { m with core := m.core.step.2, journal }) := by
  rw [step_eq]
  dsimp only
  split
  · exact ⟨_, rfl⟩
  · exact ⟨_, rfl⟩

theorem core_step : m.step.2.core = m.core.step.2 := by
  obtain ⟨_, hstep⟩ := m.exists_step
  rw [hstep]

/-! ### The return to power-on -/

theorem core_reset [TimeNumber α] : m.reset.2.core = (resetCore m.core).loaded m.program := by
  obtain ⟨_, _, hbuzzer⟩ := exists_setBuzzer { m with
    core := resetCore m.core
    timers := m.timers.reset
    budget := m.budget.forfeit } false
  unfold reset
  rw [hbuzzer]
  dsimp only
  split
  · rename_i hempty
    rw [List.isEmpty_iff.1 hempty, Processor.loaded_nil]
  · exact core_load ..

/-! ### Power-on -/

variable {m} {keypadShared : Bool}

/-- What a renderer that was told the size of the display has changed. -/
theorem exists_fitRenderer {fitted : Machine α} (h : m.fitRenderer = (.ok (), fitted))
    (hdisplay : m.core.display = Display.usual) :
    ∃ renderer journal, renderer.Fits 2048 ∧ fitted = { m with renderer, journal } := by
  unfold fitRenderer at h
  rw [hdisplay] at h
  split at h
  · cases h
  · rename_i hresize
    cases h
    exact ⟨_, _, Renderer.fits_resize hresize (by decide), rfl⟩

/-- What a report has changed. -/
theorem exists_report {frames operations : Int} {reported : Machine α}
    (h : m.report frames operations = (.ok (), reported)) :
    ∃ renderer journal, renderer.device = m.renderer.device ∧
      reported = { m with renderer, journal } := by
  unfold report at h
  dsimp only at h
  split at h
  · cases h
  · rename_i htitle
    cases h
    exact ⟨_, _, Renderer.device_setTitle htitle, rfl⟩

variable [TimeNumber α]

section PowerOn

variable {renderer : Renderer} {inputs : Inputs α} {audio : Audio} {speed : Setting α}
  {debugger : Debugger} {seed : Setting Int}

/-- A machine that was plugged together has the speed that the setting gives. -/
theorem exists_plugged
    (h : powerOn renderer inputs audio speed debugger seed keypadShared = .ok m) :
    ∃ value number, speed.valueOr .blankNumber usualSpeed = .ok value ∧
      m = plugged renderer inputs audio value debugger (Twister.ofSeed number) keypadShared := by
  unfold powerOn at h
  dsimp only [bind, Except.bind] at h
  split at h
  · cases h
  · rename_i value hvalue
    split at h
    · cases h
    · split at h
      · cases h
      · rename_i number _
        exact ⟨value, number, hvalue, (Except.ok.inj h).symm⟩

/-- **A machine that was created** is one that was plugged together, except that its renderer was
told the size of the display, and that this was recorded. -/
theorem exists_created (h : create renderer inputs audio speed debugger seed keypadShared = .ok m) :
    ∃ value number told journal, speed.valueOr .blankNumber usualSpeed = .ok value ∧
      told.Fits 2048 ∧
      m = { plugged renderer inputs audio value debugger (Twister.ofSeed number) keypadShared with
        renderer := told, journal } := by
  unfold create at h
  split at h
  · cases h
  · rename_i hpowerOn
    obtain ⟨value, number, hvalue, rfl⟩ := exists_plugged hpowerOn
    split at h
    · cases h
    · rename_i hfit
      obtain ⟨resized, _, hfits, rfl⟩ := exists_fitRenderer hfit rfl
      split at h
      · cases h
      · rename_i hreport
        obtain ⟨told, journal, hdevice, rfl⟩ := exists_report hreport
        have htold : told.Fits 2048 := fun w hw ↦ hfits w (hdevice ▸ hw)
        exact ⟨value, number, told, journal, hvalue, htold, (Except.ok.inj h).symm⟩

/-- A machine that was created has the processor of power-on. -/
theorem core_create (h : create renderer inputs audio speed debugger seed keypadShared = .ok m) :
    ∃ random, m.core = Processor.initial random := by
  obtain ⟨_, number, _, _, -, -, rfl⟩ := exists_created h
  exact ⟨Twister.ofSeed number, rfl⟩

end PowerOn

/-! ### Machines that can be created -/

/-- A machine without a display can always be created, provided that its clock speed is above
zero. The seed is all that its core depends on. -/
theorem exists_create_headless (inputs : Inputs α) (audio : Audio) (speed : α)
    (hspeed : TimeNumber.le speed (TimeNumber.ofInt 0) = false) (debugger : Debugger) (seed : Int)
    (keypadShared : Bool) :
    ∃ m, create (Renderer.fresh .headless 1 "") inputs audio (.given speed) debugger (.given seed)
      keypadShared = .ok m ∧ m.core = Processor.initial (Twister.ofSeed seed) := by
  have hpowerOn : powerOn (Renderer.fresh .headless 1 "") inputs audio (.given speed) debugger
      (.given seed) keypadShared = .ok (plugged (Renderer.fresh .headless 1 "") inputs audio speed
        debugger (Twister.ofSeed seed) keypadShared) := by
    unfold powerOn
    rw [Setting.valueOr_given, Setting.valueOr_given]
    show (if TimeNumber.le speed (TimeNumber.ofInt 0) = true then _ else _) = _
    rw [hspeed]
    rfl
  unfold create
  rw [hpowerOn]
  exact ⟨_, rfl, rfl⟩

/-- There is a machine without devices but for a scripted keypad. -/
theorem exists_create_scripted :
    ∃ m : Machine Scalar, create (Renderer.fresh .headless 1 "") .script Audio.silent
      (.given (.whole 700)) .absent (.given 1) true = .ok m := by
  obtain ⟨m, hm, -⟩ := exists_create_headless (α := Scalar) .script Audio.silent
    (.whole 700) rfl .absent 1 true
  exact ⟨m, hm⟩

end Machine

end ChipEight
