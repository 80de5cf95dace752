import ChipEight.Host.Audio
import ChipEight.Host.Inputs
import ChipEight.Host.Journal
import ChipEight.Host.Renderer
import ChipEight.Pacing
import ChipEight.Processor

/-!
# The machine

The processor together with the devices it is plugged into. A frame goes through a fixed order:
poll the inputs; execute as many instructions as the clock speed allows for the time that has
passed; apply the ticks of the timers that the same time brings; show the display if it changed,
and turn the buzzer on or off by the sound timer.

Whatever is done towards the outside is recorded in the machine's journal. An operation that fails
yields its failure together with the machine as it was left, since the parts of a frame that were
finished before the failure stay done.

## Main definitions

* `Machine`: the machine.
* `Machine.create`, `Machine.load`, `Machine.reset`: from power-on to a loaded program.
* `Machine.step`: one instruction, whose fault is logged.
* `Machine.runFrame`: one frame.
-/

namespace ChipEight

variable {α : Type} [TimeNumber α]

/-- Whether execution is traced. -/
inductive Debugger
  /-- There is none, so a fault is logged without a dump. -/
  | absent
  /-- It dumps the state at a fault. -/
  | quiet
  /-- It prints a line in front of every instruction as well. -/
  | live
  deriving DecidableEq, Repr

/-- The processor and the devices it is plugged into. -/
structure Machine (α : Type) where
  /-- The processor and what it works on. -/
  core : Processor
  /-- The program loaded last. -/
  program : List UInt8
  /-- The account of timer ticks. -/
  timers : TickClock α
  /-- The account of processor cycles. -/
  budget : CycleBudget α
  /-- Whether the buzzer was last turned on. -/
  buzzing : Bool
  /-- The frames shown since the last report. -/
  framesShown : Nat
  /-- The instructions attempted since the last report. -/
  operations : Nat
  /-- The time from which the next report is due. -/
  nextReport : α
  /-- Where the display is shown. -/
  renderer : Renderer
  /-- Where key presses come from. -/
  inputs : Inputs α
  /-- Where the buzzer sounds. -/
  audio : Audio
  /-- Whether the inputs act on the machine's own keypad. -/
  keypadShared : Bool
  /-- Whether execution is traced. -/
  debugger : Debugger
  /-- What was done towards the outside. -/
  journal : Journal α

namespace Machine

/-- The usual clock speed, in instructions a second. -/
def usualSpeed : α := TimeNumber.ofInt 700

/-- The size of memory. -/
def memorySize : Nat := 4096

/-- The greatest size of a program. -/
def maxProgramSize : Nat := memorySize - programStart

/-! ### The journal -/

/-- The machine with an entry added to its journal. -/
def record (m : Machine α) (entry : Entry α) : Machine α :=
  { m with journal := m.journal.push entry }

/-- The machine with calls added to its journal. -/
def recordCalls (m : Machine α) (calls : List HostCall) : Machine α :=
  { m with journal := m.journal ++ Journal.ofCalls calls }

/-- The machine with lines printed added to its journal. -/
def recordLines (m : Machine α) (lines : List String) : Machine α :=
  { m with journal := m.journal ++ (lines.map Entry.line).toArray }

/-- The title that reports performance. -/
def reportTitle (frames operations : Int) : String :=
  Renderer.programName ++ " - " ++ toString frames ++ " FPS, " ++ toString operations ++ " OPS"

/-- Reports performance in the title. -/
def report (m : Machine α) (frames operations : Int) : Except Failure Unit × Machine α :=
  let title := reportTitle frames operations
  let m := m.record (.title title)
  match m.renderer.setTitle title with
  | (.error failure, calls) => (.error failure, m.recordCalls calls)
  | (.ok renderer, calls) => (.ok (), { m with renderer }.recordCalls calls)

/-! ### Power-on and programs -/

/-- The machine at power-on, before its renderer knows the display. -/
def plugged (renderer : Renderer) (inputs : Inputs α) (audio : Audio) (speed : α)
    (debugger : Debugger) (random : Twister) (keypadShared : Bool) : Machine α where
  core := Processor.initial random
  program := []
  timers := TickClock.ofTimers
  budget := CycleBudget.start speed
  buzzing := false
  framesShown := 0
  operations := 0
  nextReport := TimeNumber.ofInt 0
  renderer := renderer
  inputs := inputs
  audio := audio
  keypadShared := keypadShared
  debugger := debugger
  journal := #[]

/-- The machine at power-on under settings. Its clock speed must be above zero. -/
def powerOn (renderer : Renderer) (inputs : Inputs α) (audio : Audio) (speed : Setting α)
    (debugger : Debugger) (seed : Setting Int) (keypadShared : Bool) :
    Except Failure (Machine α) := do
  let speed ← speed.valueOr .blankNumber usualSpeed
  if TimeNumber.le speed (TimeNumber.ofInt 0) then throw .clockSpeed
  let seed ← seed.valueOr .blankNumber 0
  return plugged renderer inputs audio speed debugger (Twister.ofSeed seed) keypadShared

/-- Tells the renderer the size of the display. -/
def fitRenderer (m : Machine α) : Except Failure Unit × Machine α :=
  match m.renderer.resize m.core.display.width m.core.display.height with
  | (.error failure, calls) => (.error failure, m.recordCalls calls)
  | (.ok renderer, calls) => (.ok (), { m with renderer }.recordCalls calls)

/-- A machine at power-on whose renderer knows the display and shows a first report, or the failure
and what was recorded up to it. -/
def create (renderer : Renderer) (inputs : Inputs α) (audio : Audio) (speed : Setting α)
    (debugger : Debugger) (seed : Setting Int) (keypadShared : Bool) :
    Except (Failure × Journal α) (Machine α) :=
  match powerOn renderer inputs audio speed debugger seed keypadShared with
  | .error failure => .error (failure, #[])
  | .ok m =>
    match m.fitRenderer with
    | (.error failure, m) => .error (failure, m.journal)
    | (.ok (), m) =>
      match m.report 0 0 with
      | (.error failure, m) => .error (failure, m.journal)
      | (.ok (), m) => .ok m

/-- The text that logs the loading of a program. -/
def loadedText (size : Nat) : String :=
  "Loaded " ++ toString size ++ " byte program at 0x" ++ Hex.padded 3 programStart

/-- Refuses a program of a size that has no place in memory. -/
def checkProgramSize (size : Nat) : Except Failure Unit :=
  if size > maxProgramSize then .error (.fault (.programTooLarge programStart size)) else .ok ()

/-- Loads a program. One that is too large changes nothing. -/
def load (m : Machine α) (program : List UInt8) : Except Failure Unit × Machine α :=
  let stored := do
    checkProgramSize program.length
    m.core.memory.writeBlock programStart program
  match stored with
  | .error failure => (.error failure, m)
  | .ok memory =>
    (.ok (), { m with core := { m.core with memory }, program }.record
      (.log .info (loadedText program.length)))

/-- A program of equal bytes, as many as a length says; none for a length below zero. -/
def uniformProgram (length byte : Int) : Except Failure (List UInt8) := do
  if ¬ (0 ≤ byte ∧ byte < 256) then throw (.notAByte byte)
  Extent.check Extent.usualLimit length
  checkProgramSize length.toNat
  return List.replicate length.toNat (UInt8.ofNat byte.toNat)

/-- Loads a program of equal bytes. -/
def loadUniform (m : Machine α) (length byte : Int) : Except Failure Unit × Machine α :=
  match uniformProgram length byte with
  | .error failure => (.error failure, m)
  | .ok program => m.load program

/-- Turns the buzzer on or off, if that is a change. -/
def setBuzzer (m : Machine α) (enabled : Bool) : Machine α :=
  if enabled = m.buzzing then m
  else
    let (audio, calls) := m.audio.setBuzzer enabled
    ({ m with audio, buzzing := enabled }.record (.buzzer enabled)).recordCalls calls

/-- The processor returned to power-on, except for its source of random bytes. -/
def resetCore (s : Processor) : Processor :=
  { s with
    memory := s.memory.clear.setBytes Font.address Font.glyphs
    registers := s.registers.reset
    display := s.display.clear
    keypad := Keypad.released }.forget

/-- Returns to power-on and loads the last program again. -/
def reset (m : Machine α) : Except Failure Unit × Machine α :=
  let m := { m with
    core := resetCore m.core
    timers := m.timers.reset
    budget := m.budget.forfeit }.setBuzzer false
  if m.program.isEmpty then (.ok (), m) else m.load m.program

/-! ### Instructions -/

/-- The text that logs a fault: where it happened and, with a debugger, the state there. -/
def faultText (m : Machine α) : String :=
  let dump := match m.debugger with
    | .absent => ""
    | .quiet | .live =>
      "\n" ++ Trace.dump m.core.registers m.core.opcode Trace.unknownText
  "Emulation halted at address 0x" ++ Hex.padded 3 m.core.registers.pc ++ dump

/-- Executes one instruction, which prints its line if execution is traced. A fault of the machine
is logged. -/
def step (m : Machine α) : Except Failure Outcome × Machine α :=
  let (result, bench) := m.core.stepWith (m.debugger == .live)
  let m := { m with core := bench.core }.recordLines bench.lines
  match result with
  | .error (.fault _) => (result, m.record (.log .error m.faultText))
  | _ => (result, m)

/-- Executes a number of instructions, unless one of them waits for a key, which also forfeits the
credit for cycles. -/
def runCycles : Nat → Machine α → Except Failure Unit × Machine α
  | 0, m => (.ok (), m)
  | cycles + 1, m =>
    match { m with operations := m.operations + 1 }.step with
    | (.error failure, m) => (.error failure, m)
    | (.ok .wait, m) => (.ok (), { m with budget := m.budget.forfeit })
    | (.ok _, m) => runCycles cycles m

/-! ### Frames -/

/-- Polls the inputs and tells whether the host asks to quit. -/
def poll (m : Machine α) (events : List HostEvent) (now : α) : Except Failure Bool × Machine α :=
  let (result, inputs, keypad) := m.inputs.poll events now m.core.keypad
  let core := if m.keypadShared then { m.core with keypad } else m.core
  (result, { m with inputs, core })

/-- Executes the instructions that an elapsed time allows. -/
def runInstructions (m : Machine α) (elapsed : α) : Except Failure Unit × Machine α :=
  match m.budget.grant elapsed with
  | (.error failure, budget) => (.error failure, { m with budget })
  | (.ok cycles, budget) => runCycles cycles.toNat { m with budget }

/-- Applies the timer ticks that an elapsed time brings. -/
def runTimers (m : Machine α) (elapsed : α) : Except Failure Unit × Machine α :=
  match m.timers.advance elapsed with
  | (.error failure, timers) => (.error failure, { m with timers })
  | (.ok ticks, timers) =>
    let core := { m.core with registers := m.core.registers.ticks ticks.toNat }
    (.ok (), { m with timers, core })

/-- Hands the display to the renderer, which shows it. -/
def showDisplay (m : Machine α) : Except Failure Unit × Machine α :=
  let m := m.record (.display m.core.display.pixels)
  match m.renderer.refresh m.core.display with
  | (.error failure, calls) => (.error failure, m.recordCalls calls)
  | (.ok renderer, calls) =>
    let core := { m.core with display := m.core.display.shown }
    (.ok (), { m with renderer, core, framesShown := m.framesShown + 1 }.recordCalls calls)

/-- Shows the display, if it changed since it was shown last. -/
def refreshDisplay (m : Machine α) : Except Failure Unit × Machine α :=
  if m.core.display.dirty then m.showDisplay else (.ok (), m)

/-- Runs one frame, given the time elapsed since the last one, the events reported since then and
the time of the poll. Yields whether the host lets the machine go on; if it does not, only the
inputs have been polled. -/
def runFrame (m : Machine α) (elapsed : α) (events : List HostEvent) (now : α) :
    Except Failure Bool × Machine α :=
  match m.poll events now with
  | (.error failure, m) => (.error failure, m)
  | (.ok true, m) => (.ok false, m)
  | (.ok false, m) =>
    match m.runInstructions elapsed with
    | (.error failure, m) => (.error failure, m)
    | (.ok (), m) =>
      match m.runTimers elapsed with
      | (.error failure, m) => (.error failure, m)
      | (.ok (), m) =>
        match m.refreshDisplay with
        | (.error failure, m) => (.error failure, m)
        | (.ok (), m) =>
          (.ok true, (m.setBuzzer (m.core.registers.st > 0)).record (.frame elapsed))

end Machine

end ChipEight
