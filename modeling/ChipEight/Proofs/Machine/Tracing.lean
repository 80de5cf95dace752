import ChipEight.Proofs.Machine.Core

/-!
# Tracing

A live debugger makes each instruction print a line before it does anything else. What a machine
prints goes into its journal, which no part of a machine reads, and an instruction that has printed
its line does what it does without one (`Processor.run_handle`). So a run with a live debugger, with
a quiet one and with none passes through the same states and has the same results.

`debugger_irrelevant` says so for every run of steps, ticks and keys, from every state. The lines of
a live run are those of the states in front of its steps, and `traceLine?_eq_some_iff` says which of
these have a line: fetching and decoding have to succeed, and nothing is asked of the instruction
itself, which may fail after its line was printed.
-/

namespace ChipEight

/-! ### Lines -/

namespace Journal

variable {α : Type} (j : Journal α)

theorem lines_push_log (level : Level) (text : String) :
    lines (j.push (.log level text)) = j.lines := by
  simp [lines]

theorem lines_append_lines (printed : List String) :
    lines (j ++ (printed.map Entry.line).toArray) = j.lines ++ printed := by
  unfold lines
  rw [Array.toList_append, List.filterMap_append, List.filterMap_map]
  exact congrArg (j.lines ++ ·) List.filterMap_some

end Journal

/-- **When a step has a trace line**, and which: the word at the program counter is fetched and is
an instruction, and the line shows the registers in front of it, the word and the instruction. -/
theorem Processor.traceLine?_eq_some_iff {s : Processor} {line : String} :
    s.traceLine? = some line ↔ ∃ word i, s.fetch = .ok word ∧ s.decode word = .ok i ∧
      line = Trace.line s.registers word i.text := by
  unfold traceLine?
  rcases hfetch : s.fetch with failure | word
  · simp
  · rcases hdecode : Instruction.ofWord? word with - | i
    · simp [decode_eq, hdecode]
    · simp [decode_eq, hdecode, eq_comm]

namespace Machine

variable {α : Type} (m : Machine α)

/-- The lines after a step. A fault is logged, which prints no line. -/
theorem lines_step : m.step.2.journal.lines = m.journal.lines ++ m.printed := by
  have hlines := Journal.lines_append_lines m.journal m.printed
  rw [step_eq]
  dsimp only
  split
  · exact (Journal.lines_push_log ..).trans hlines
  · exact hlines

/-! ### Runs -/

/-- The machine after an event. A step is the machine's own, which may be traced. -/
def meet (m : Machine α) : Event → Machine α
  | .step => m.step.2
  | event => { m with core := m.core.on event }

/-- The machine after a run of events. -/
def afterEvents (m : Machine α) (events : List Event) : Machine α :=
  events.foldl meet m

/-- The results of the machine's own steps in a run of events, in turn. -/
def results (m : Machine α) : List Event → List (Except Failure Outcome)
  | [] => []
  | .step :: rest => m.step.1 :: (m.meet .step).results rest
  | event :: rest => (m.meet event).results rest

variable {m}

theorem core_meet (m : Machine α) (event : Event) : (m.meet event).core = m.core.on event := by
  cases event with
  | step => exact m.core_step
  | tick => rfl
  | press key => rfl
  | release key => rfl

theorem debugger_meet (m : Machine α) (event : Event) : (m.meet event).debugger = m.debugger := by
  cases event with
  | step =>
    obtain ⟨_, hstep⟩ := m.exists_step
    exact congrArg (fun done ↦ done.2.debugger) hstep
  | tick => rfl
  | press key => rfl
  | release key => rfl

/-- The core goes through a run as it does on its own. -/
theorem core_afterEvents (m : Machine α) (events : List Event) :
    (m.afterEvents events).core = m.core.after events := by
  induction events generalizing m with
  | nil => rfl
  | cons event rest ih =>
    show ((m.meet event).afterEvents rest).core = (m.core.on event).after rest
    rw [ih, core_meet]

/-- The machine's own steps have the results that the core's steps have. -/
theorem results_eq (m : Machine α) (events : List Event) :
    m.results events = m.core.results events := by
  induction events generalizing m with
  | nil => rfl
  | cons event rest ih =>
    have hrest : (m.meet event).results rest = (m.core.on event).results rest := by
      rw [ih, core_meet]
    cases event with
    | step =>
      obtain ⟨_, hstep⟩ := m.exists_step
      have hresult : m.step.1 = m.core.step.1 := congrArg Prod.fst hstep
      show m.step.1 :: (m.meet .step).results rest = m.core.step.1 :: (m.core.on .step).results rest
      rw [hresult, hrest]
    | tick => exact hrest
    | press key => exact hrest
    | release key => exact hrest

/-- The lines that a debugger prints in front of some states. -/
def tracedLines (debugger : Debugger) (states : List Processor) : List String :=
  if debugger = .live then states.filterMap Processor.traceLine? else []

theorem tracedLines_cons (debugger : Debugger) (s : Processor) (states : List Processor) :
    tracedLines debugger (s :: states) =
      (if debugger = .live then s.traceLine?.toList else []) ++ tracedLines debugger states := by
  unfold tracedLines
  split
  · rcases hline : s.traceLine? with - | line
    · rw [List.filterMap_cons_none hline]
      rfl
    · rw [List.filterMap_cons_some hline]
      rfl
  · rfl

/-- **The lines of a run** are those in front of its steps, one after another. -/
theorem lines_afterEvents (m : Machine α) (events : List Event) :
    (m.afterEvents events).journal.lines =
      m.journal.lines ++ tracedLines m.debugger (m.core.fronts events) := by
  induction events generalizing m with
  | nil =>
    show m.journal.lines = m.journal.lines ++ tracedLines m.debugger []
    unfold tracedLines
    simp
  | cons event rest ih =>
    have hrest := ih (m.meet event)
    rw [debugger_meet, core_meet] at hrest
    change ((m.meet event).afterEvents rest).journal.lines = _
    rw [hrest]
    cases event with
    | step =>
      show m.step.2.journal.lines ++ _ = _
      rw [lines_step, Processor.fronts_cons_step, tracedLines_cons, List.append_assoc]
      rfl
    | tick => rfl
    | press key => rfl
    | release key => rfl

/-- **Tracing does not interfere.** From every state, with whatever debugger, a machine goes through
a run of steps, ticks and keys in the states, and with the results, that the core alone has. Only a
live debugger prints, and it prints the lines of the states in front of the steps: for each of them
exactly one line if its word is fetched and decoded, whether the instruction then fails or not, and
none otherwise. The line shows the registers as the instruction finds them, and the word that has
just become the current opcode. -/
theorem debugger_irrelevant (m : Machine α) (debugger : Debugger) (events : List Event) :
    let traced := { m with debugger }
    (traced.afterEvents events).core = m.core.after events ∧
      traced.results events = m.core.results events ∧
      (traced.afterEvents events).journal.lines = m.journal.lines ++
        (if debugger = .live then (m.core.fronts events).filterMap Processor.traceLine? else []) ∧
      ∀ (s : Processor) (line : String), s.traceLine? = some line ↔
        ∃ word i, s.fetch = .ok word ∧ s.decode word = .ok i ∧
          line = Trace.line s.registers word i.text := by
  intro traced
  refine ⟨core_afterEvents traced events, results_eq traced events, ?_, ?_⟩
  · exact lines_afterEvents traced events
  · intro s line
    exact Processor.traceLine?_eq_some_iff

end Machine

end ChipEight
