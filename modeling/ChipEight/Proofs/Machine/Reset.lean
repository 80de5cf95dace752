import ChipEight.Proofs.Machine.Twin

/-!
# The return to power-on

A reset undoes whatever a run did. It has to clear seven components, and the proof is that each of
them comes back to what it is in a machine that was just created: memory with the font, whatever the
program wrote over it; the registers; the display; the keypad; a wait for a key; the accounts of
time; the buzzer. Two things stay on purpose. The source of random bytes goes on where it was, and
the remembered program is loaded again.

`reset_restores` compares the machine after a reset with any machine that was created afresh and
given the last accepted program. The two agree in all that a program can reach (`SameState`),
whatever their settings. If their settings agree and the inputs are handed over as they are, they
are twins but for the source of random bytes, so they go on alike until a program draws from it.
-/

namespace ChipEight

/-- **The core of a reset** is the core at power-on, except for its source of random bytes. -/
theorem Machine.resetCore_eq {s : Processor} (h : s.Sound) :
    resetCore s = Processor.initial s.random := by
  have hmemory : s.memory.clear = Memory.zeroed 4096 := congrArg Memory.zeroed h.memory
  have hregisters : s.registers.reset = Registers.initial CallStack.usualCapacity :=
    congrArg Registers.initial h.capacity
  have hdisplay : s.display.clear = Display.usual := by
    refine Display.ext h.width h.height ?_ rfl
    show Array.replicate s.display.pixels.size false = _
    rw [h.pixels]
    rfl
  unfold resetCore
  rw [hmemory, hregisters, hdisplay]
  rfl

namespace Processor

/-- The core at power-on depends on its source of random bytes in nothing else. -/
theorem initial_loaded_eq (random random' : Twister) (program : List UInt8) :
    (initial random').loaded program = ((initial random).loaded program).withRandom random' := by
  rw [← loaded_withRandom]
  rfl

theorem random_loaded (s : Processor) (program : List UInt8) :
    (s.loaded program).random = s.random := by
  unfold loaded
  split <;> rfl

end Processor

namespace Machine

variable {α : Type}

/-- The machine with a program loaded, if there is one to load. -/
def withProgram? (m : Machine α) : Option (List UInt8) → Machine α
  | none => m
  | some program => (m.load program).2

theorem withProgram?_some (m : Machine α) (program : List UInt8) :
    m.withProgram? (some program) = (m.load program).2 := rfl

/-- The two machines agree in all that a program can reach, except for the source of random bytes:
memory, registers, display, keypad, current opcode and wait for a key, and besides these the
remembered program, the remainders of the two accounts of time, and the buzzer. -/
structure SameState (m n : Machine α) : Prop where
  /-- The cores agree, except for the source of random bytes. -/
  core : n.core = m.core.withRandom n.core.random
  /-- The remembered programs agree. -/
  program : n.program = m.program
  /-- The times that have not yet become ticks agree. -/
  pending : n.timers.pending = m.timers.pending
  /-- The cycles that have not yet become whole agree. -/
  credit : n.budget.credit = m.budget.credit
  /-- The buzzers agree. -/
  buzzing : n.buzzing = m.buzzing

variable [TimeNumber α] {m n : Machine α} {renderer : Renderer} {inputs : Inputs α} {audio : Audio}
  {speed : Setting α} {debugger : Debugger} {seed : Setting Int} {keypadShared : Bool}

theorem Twin.sameState {value : α} {program : List UInt8} {random : Twister}
    (h : Twin value keypadShared program random m n) : SameState m n where
  core := h.core ▸ rfl
  program := h.right.program.trans h.left.program.symm
  pending := congrArg TickClock.pending h.timers
  credit := congrArg CycleBudget.credit h.budget
  buzzing := h.buzzing

/-- The fields that a reset writes, in a machine that runs. -/
theorem Running.exists_reset {value : α} {program : List UInt8}
    (h : Running value keypadShared program m) :
    ∃ audio journal, m.reset = (.ok (), { m with
      core := (Processor.initial m.core.random).loaded program
      program
      timers := TickClock.ofTimers
      budget := CycleBudget.start value
      buzzing := false
      audio, journal }) := by
  have htimers : m.timers.reset = TickClock.ofTimers := congrArg TickClock.start h.rate
  have hbudget : m.budget.forfeit = CycleBudget.start value := congrArg CycleBudget.start h.speed
  obtain ⟨audio, journal, hreset⟩ :=
    Machine.exists_reset h.sound.memory (h.program ▸ h.size)
  rw [resetCore_eq h.sound, h.program, htimers, hbudget] at hreset
  exact ⟨audio, journal, hreset⟩

/-- A machine that was created, with a program loaded if there is one. -/
theorem exists_withProgram?
    (h : create renderer inputs audio speed debugger seed keypadShared = .ok m)
    {program? : Option (List UInt8)} (hsize : (program?.getD []).length ≤ maxProgramSize) :
    ∃ value number told journal, speed.valueOr .blankNumber usualSpeed = .ok value ∧
      told.Fits 2048 ∧ m.withProgram? program? =
        { plugged told inputs audio value debugger (Twister.ofSeed number) keypadShared with
          core := (Processor.initial (Twister.ofSeed number)).loaded (program?.getD [])
          program := program?.getD []
          journal } := by
  obtain ⟨value, number, told, journal, hvalue, hfits, rfl⟩ := exists_created h
  refine ⟨value, number, told, ?_⟩
  rcases program? with - | program
  · refine ⟨journal, hvalue, hfits, ?_⟩
    rw [Option.getD_none, Processor.loaded_nil]
    rfl
  · obtain ⟨journal', hload⟩ := exists_load (m := { plugged told inputs audio value debugger
      (Twister.ofSeed number) keypadShared with journal }) (Processor.sound_initial _).memory hsize
    exact ⟨journal', hvalue, hfits, congrArg Prod.snd hload⟩

variable {value : α} {program? : Option (List UInt8)}

/-- **A reset against any new machine.** After a reset, a machine that runs agrees with a machine
that was created afresh, under whatever settings, and had the remembered program loaded. -/
theorem Running.sameState_reset (h : Running value keypadShared (program?.getD []) m)
    {shared : Bool} (hn : create renderer inputs audio speed debugger seed shared = .ok n) :
    SameState m.reset.2 (n.withProgram? program?) := by
  obtain ⟨_, _, hreset⟩ := h.exists_reset
  obtain ⟨_, number, _, _, -, -, hloaded⟩ := exists_withProgram? hn h.size
  rw [hreset, hloaded]
  have hcore := Processor.initial_loaded_eq m.core.random (Twister.ofSeed number) (program?.getD [])
  refine ⟨?_, rfl, rfl, rfl, rfl⟩
  dsimp only
  rw [Processor.random_loaded]
  exact hcore

/-- **A reset against a new machine with the same settings** and with the inputs handed over: the
two machines are twins. -/
theorem Running.twin_reset (h : Running value keypadShared (program?.getD []) m)
    (hvalue : speed.valueOr .blankNumber usualSpeed = .ok value)
    (hn : create renderer inputs audio speed debugger seed keypadShared = .ok n)
    (hinputs : inputs = m.inputs) :
    ∃ random, Twin value keypadShared (program?.getD []) random m.reset.2
      (n.withProgram? program?) := by
  have hleft := h.reset
  obtain ⟨value', number, told, journal, hvalue', hfits, hloaded⟩ := exists_withProgram? hn h.size
  -- The setting decides the speed, so both machines have the same.
  obtain rfl : value' = value := Except.ok.inj (hvalue'.symm.trans hvalue)
  obtain ⟨_, _, hreset⟩ := h.exists_reset
  have hsound := (Processor.sound_initial (Twister.ofSeed number)).loaded (program?.getD [])
  rw [hreset] at hleft ⊢
  rw [hloaded]
  exact ⟨Twister.ofSeed number, {
    left := hleft
    right := ⟨hsound, hfits, rfl, rfl, rfl, h.size, rfl⟩
    core := Processor.initial_loaded_eq m.core.random (Twister.ofSeed number) (program?.getD [])
    timers := rfl
    budget := rfl
    buzzing := rfl
    inputs := hinputs }⟩

/-- **The return to power-on.** However a machine has run, a reset succeeds and leaves it as a new
machine on which the last accepted program was loaded. On the way, a program was refused exactly if
it is longer than 3584 bytes, and refusing it changed nothing. And from the reset on, the machine
passes through the same states as a new machine with its settings, for as long as it draws no random
byte. What the inputs have read is the host's and no reset forgets it, so the new machine gets the
inputs as they are. -/
theorem reset_restores
    (h : create renderer inputs audio speed debugger seed keypadShared = .ok m)
    (actions : List (Action α)) :
    (m.afterActions actions).reset.1 = .ok () ∧
    (∀ renderer inputs audio speed debugger seed keypadShared n,
      create renderer inputs audio speed debugger seed keypadShared = .ok n →
        SameState (m.afterActions actions).reset.2 (n.withProgram? (lastAccepted? actions))) ∧
    (∀ program,
      (∀ failure, ((m.afterActions actions).load program).1 = .error failure ↔
        3584 < program.length ∧
          failure = .fault (.programTooLarge 0x200 program.length)) ∧
      (3584 < program.length → ((m.afterActions actions).load program).2 =
        m.afterActions actions)) ∧
    (∀ renderer audio debugger seed n,
      create renderer (m.afterActions actions).inputs audio speed debugger seed keypadShared =
          .ok n →
        ∀ continuation,
          (∀ s ∈ (m.afterActions actions).reset.2.attemptsAll continuation, ¬ s.DrawsRandom) →
          ∃ random,
            (n.withProgram? (lastAccepted? actions)).attemptsAll continuation =
              ((m.afterActions actions).reset.2.attemptsAll continuation).map
                (fun s ↦ s.withRandom random) ∧
            SameState ((m.afterActions actions).reset.2.afterActions continuation)
              ((n.withProgram? (lastAccepted? actions)).afterActions continuation)) := by
  obtain ⟨value, hvalue, hstart⟩ := running_create h
  have hrun := hstart.afterActions actions
  refine ⟨?_, ?_, ?_, ?_⟩
  · obtain ⟨_, _, hreset⟩ := hrun.exists_reset
    rw [hreset]
  · intro renderer inputs audio speed debugger seed keypadShared n hn
    exact hrun.sameState_reset hn
  · intro program
    have hmax : maxProgramSize = 3584 := rfl
    by_cases hsize : program.length ≤ maxProgramSize
    · obtain ⟨_, hload⟩ := exists_load hrun.sound.memory hsize
      rw [hload]
      refine ⟨fun failure ↦ ⟨fun hfailure ↦ ?_, fun hlarge ↦ ?_⟩, fun hlarge ↦ ?_⟩
      · cases hfailure
      · omega
      · omega
    · rw [load_of_gt (Nat.lt_of_not_le hsize)]
      refine ⟨fun failure ↦ ⟨fun hfailure ↦ ?_, fun hlarge ↦ ?_⟩, fun _ ↦ rfl⟩
      · exact ⟨by omega, (Except.error.inj hfailure).symm⟩
      · exact congrArg Except.error hlarge.2.symm
  · intro renderer audio debugger seed n hn continuation hdraws
    obtain ⟨random, htwin⟩ := hrun.twin_reset hvalue hn rfl
    obtain ⟨hattempts, _, hafter⟩ := htwin.afterActions continuation hdraws
    exact ⟨random, hattempts, hafter.sameState⟩

/-- A program that jumps to itself. -/
def idleProgram : List UInt8 := [0x12, 0x00]

/-- What a new machine with that program attempts first is a jump, whatever its seed is. -/
theorem not_drawsRandom_idle (random : Twister) :
    ¬ ((Processor.initial random).loaded idleProgram).DrawsRandom := by
  rintro ⟨x, mask, spare, hfetch⟩
  have hword : ((Processor.initial ⟨#[], 0⟩).loaded idleProgram).fetch = .ok 0x1200 := by
    decide +kernel
  have hsame : ((Processor.initial random).loaded idleProgram).fetch =
      ((Processor.initial ⟨#[], 0⟩).loaded idleProgram).fetch := by
    rw [Processor.initial_loaded_eq ⟨#[], 0⟩ random, Processor.fetch_withRandom]
  have hdecoded := Instruction.ofWord?_toWord (.random x mask) spare
  rw [← Except.ok.inj ((hsame.trans hword).symm.trans hfetch)] at hdecoded
  cases hdecoded

theorem attemptsAll_step (m : Machine α) : m.attemptsAll [.event .step] = [m.core] := rfl

/-- A run that loads that program and leaves off with a key held. -/
def idleRun : List (Action Scalar) :=
  [.operation (.load idleProgram), .event (.press (Nibble.ofNat 3)), .event .step]

/-- That run, a reset and a step, against a machine with another seed. -/
theorem reset_restores_idle :
    ∃ m n : Machine Scalar,
      create (Renderer.fresh .headless 1 "") .script Audio.silent (.given (.whole 700)) .absent
        (.given 1) true = .ok m ∧
      create (Renderer.fresh .headless 1 "") (m.afterActions idleRun).inputs Audio.silent
        (.given (.whole 700)) .absent (.given 2) true = .ok n ∧
      SameState (m.afterActions idleRun).reset.2 (n.load idleProgram).2 ∧
      ∃ random, (n.load idleProgram).2.attemptsAll [.event .step] =
          [(m.afterActions idleRun).reset.2.core.withRandom random] ∧
        SameState ((m.afterActions idleRun).reset.2.afterActions [.event .step])
          ((n.load idleProgram).2.afterActions [.event .step]) := by
  obtain ⟨m, hm, -⟩ := exists_create_headless (α := Scalar) .script Audio.silent (.whole 700) rfl
    .absent 1 true
  obtain ⟨n, hn, -⟩ := exists_create_headless (m.afterActions idleRun).inputs Audio.silent
    (.whole 700) rfl .absent 2 true
  obtain ⟨-, hsame, -, hcontinues⟩ := reset_restores hm idleRun
  have hlast : lastAccepted? idleRun = some idleProgram := rfl
  have hdraws : ∀ s ∈ (m.afterActions idleRun).reset.2.attemptsAll [.event .step],
      ¬ s.DrawsRandom := by
    obtain ⟨value, -, hstart⟩ := running_create hm
    obtain ⟨_, _, hreset⟩ := (hstart.afterActions idleRun).exists_reset
    intro s hs
    rw [attemptsAll_step, List.mem_singleton] at hs
    rw [hs, hreset, hlast, Option.getD_some]
    dsimp only
    exact not_drawsRandom_idle _
  obtain ⟨random, hattempts, hafter⟩ := hcontinues _ _ _ _ n hn [.event .step] hdraws
  rw [attemptsAll_step (m.afterActions idleRun).reset.2] at hattempts
  rw [hlast, withProgram?_some] at hattempts hafter
  rw [hlast] at hsame
  exact ⟨m, n, hm, hn, hsame _ _ _ _ _ _ _ n hn, random, hattempts, hafter⟩

end Machine

end ChipEight
