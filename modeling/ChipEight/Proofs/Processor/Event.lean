import ChipEight.Processor

/-!
# Runs of a processor

Between two changes of its program a processor meets four kinds of event: a step, a tick of the
timers, and a key going down or up. The theorems about runs are about every list of events, so about
every order in which steps, ticks and keys can follow each other.

A run has a state at its end (`after`), and for each of its steps the state in front of it
(`fronts`) and a result (`results`). A step that fails does not end a run here, so what a later step
does is a question of its own.
-/

namespace ChipEight

/-- What a processor can meet while its program stays the same. -/
inductive Event
  /-- An instruction is attempted. -/
  | step
  /-- The timers tick once. -/
  | tick
  /-- A key goes down, or is pressed again while it is down. -/
  | press (key : Key)
  /-- A key goes up. -/
  | release (key : Key)
  deriving DecidableEq, Repr

namespace Processor

/-- A processor that has only some cells of memory to work on, and starts at the first of them. -/
def bare (cells : Array UInt8) : Processor where
  memory := ⟨cells⟩
  registers := { Registers.initial CallStack.usualCapacity with pc := 0 }
  display := Display.usual
  keypad := Keypad.released
  random := ⟨#[], 0⟩
  opcode := 0
  waiting := false

/-- The state after an event. -/
def on (s : Processor) : Event → Processor
  | .step => s.step.2
  | .tick => s.withRegisters s.registers.tick
  | .press key => { s with keypad := s.keypad.press key }
  | .release key => { s with keypad := s.keypad.release key }

/-- The state after a run. -/
def after (s : Processor) (events : List Event) : Processor :=
  events.foldl on s

/-- The results of the steps of a run, in turn. -/
def results (s : Processor) : List Event → List (Except Failure Outcome)
  | [] => []
  | .step :: rest => s.step.1 :: (s.on .step).results rest
  | event :: rest => (s.on event).results rest

/-- The states in front of the steps of a run, in turn. -/
def fronts (s : Processor) : List Event → List Processor
  | [] => []
  | .step :: rest => s :: (s.on .step).fronts rest
  | event :: rest => (s.on event).fronts rest

variable {s : Processor} {event : Event} {events : List Event}

theorem after_cons : s.after (event :: events) = (s.on event).after events := rfl

theorem results_cons_step :
    s.results (.step :: events) = s.step.1 :: (s.on .step).results events := rfl

theorem fronts_cons_step : s.fronts (.step :: events) = s :: (s.on .step).fronts events := rfl

/-- **Invariants of runs.** What every event preserves holds after every run. -/
theorem after_invariant {P : Processor → Prop} (hon : ∀ s event, P s → P (s.on event)) (h : P s)
    (events : List Event) : P (s.after events) := by
  induction events generalizing s with
  | nil => exact h
  | cons event rest ih => exact ih (hon s event h)

end Processor

end ChipEight
