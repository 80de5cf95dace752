import ChipEight.Proofs.Host.Journal
import ChipEight.Proofs.Machine.Parts

/-!
# What the parts of an operation write

Every part of an operation adds entries of few kinds to the journal (`Part.Writes`): a poll, a grant
and ticks none; an instruction and the loading of a program texts; showing the display the display
and calls that make no sound; the end of a frame and the return to power-on changes of the buzzer
and what these lead to. `journal_pass` says so for all parts at once. A view of the journal changes
in the parts that write entries of its kind, and in no other.
-/

namespace ChipEight

variable {α : Type}

namespace HostCall

/-- The call starts a sound or ends one. -/
def IsSound : HostCall → Prop
  | .play _ | .stop | .beep => True
  | _ => False

/-- The call is about what is shown on a display that is up. -/
def IsDrawing : HostCall → Prop
  | .caption _ | .picture .. | .stretch .. | .place .. | .present => True
  | .makePad .. | .write .. | .clearScreen | .resizeTerminal .. | .refreshScreen => True
  | .showPad .. => True
  | _ => False

/-- Drawing makes no sound. -/
theorem IsDrawing.not_isSound {c : HostCall} (h : c.IsDrawing) : ¬ c.IsSound := by
  cases c <;> first | exact id | exact h.elim

end HostCall

namespace Renderer

theorem isDrawing_of_resizeCalls (t : Terminal) (size : Int × Int) :
    ∀ c ∈ resizeCalls t size, c.IsDrawing := by
  unfold resizeCalls
  split
  · simp
  · split <;> simp [HostCall.IsDrawing]

theorem isDrawing_of_rowCalls (scale : Int) (rows : List (List Bool)) :
    ∀ c ∈ rowCalls scale rows, c.IsDrawing := by
  intro c hc
  obtain ⟨_, -, hrow⟩ := List.mem_flatMap.1 hc
  obtain ⟨_, -, rfl⟩ := List.mem_map.1 hrow
  trivial

/-- Showing a display takes drawing alone. -/
theorem isDrawing_of_refresh (r : Renderer) (d : Display) :
    ∀ c ∈ (r.refresh d).2, c.IsDrawing := by
  unfold refresh
  rcases r.device with - | w | t
  · simp
  · dsimp only
    split <;> simp [HostCall.IsDrawing]
  · simp only [List.forall_mem_append]
    exact ⟨⟨isDrawing_of_rowCalls _ _, isDrawing_of_resizeCalls _ _⟩,
      by simp [HostCall.IsDrawing]⟩

/-- Learning the size of the display takes drawing alone. -/
theorem isDrawing_of_resize (r : Renderer) (width height : Int) :
    ∀ c ∈ (r.resize width height).2, c.IsDrawing := by
  unfold resize
  rcases r.device with - | w | t
  · simp
  · dsimp only
    split <;> simp
  · simp [padFor, HostCall.IsDrawing]

/-- Showing a title takes drawing alone. -/
theorem isDrawing_of_setTitle (r : Renderer) (title : String) :
    ∀ c ∈ (r.setTitle title).2, c.IsDrawing := by
  unfold setTitle
  rcases r.device with - | w | t
  · simp
  · simp [HostCall.IsDrawing]
  · dsimp only
    split <;> simp [HostCall.IsDrawing]

end Renderer

namespace Machine

variable (m : Machine α)

/-! ### Stages -/

/-- A step prints its trace line and logs its fault. -/
theorem journal_step : Journal.Adds Entry.IsText m.journal m.step.2.journal := by
  have hlines := Journal.Adds.lines m.journal m.printed (P := Entry.IsText) fun _ ↦ trivial
  rw [step_eq]
  dsimp only
  split
  · exact hlines.trans (.push trivial)
  · exact hlines

/-- The fields that loading a program writes, whether it succeeds or not. -/
theorem exists_load_fields (program : List UInt8) :
    ∃ result core program' journal, Journal.Adds Entry.IsText m.journal journal ∧
      m.load program = (result, { m with core, program := program', journal }) := by
  unfold load
  dsimp only
  split
  · exact ⟨_, m.core, m.program, m.journal, .refl _, rfl⟩
  · refine ⟨_, _, _, _, ?_, rfl⟩
    exact .push trivial

section Calls

variable {P : Entry α → Prop}

/-- Turning the buzzer on or off is recorded with the calls that it leads to. -/
theorem adds_setBuzzer {enabled : Bool} (hbuzzer : P (.buzzer enabled))
    (hcalls : ∀ c ∈ (m.audio.setBuzzer enabled).2, P (.call c)) :
    Journal.Adds P m.journal (m.setBuzzer enabled).journal := by
  unfold setBuzzer
  split
  · exact .refl _
  · exact (Journal.Adds.push hbuzzer).trans (.calls hcalls)

/-- Showing the display is recorded with the calls that it leads to. -/
theorem adds_refreshDisplay (hdisplay : P (.display m.core.display.pixels))
    (hcalls : ∀ c ∈ (m.renderer.refresh m.core.display).2, P (.call c)) :
    Journal.Adds P m.journal m.refreshDisplay.2.journal := by
  unfold refreshDisplay
  split
  · unfold showDisplay
    dsimp only [record]
    rcases hrefresh : m.renderer.refresh m.core.display with ⟨failure | shown, calls⟩
    · rw [hrefresh] at hcalls
      exact (Journal.Adds.push hdisplay).trans (.calls hcalls)
    · rw [hrefresh] at hcalls
      exact (Journal.Adds.push hdisplay).trans (.calls hcalls)
  · exact .refl _

/-- What the renderer does when it learns the size of the display is recorded. -/
theorem adds_fitRenderer
    (hcalls : ∀ c ∈ (m.renderer.resize m.core.display.width m.core.display.height).2, P (.call c)) :
    Journal.Adds P m.journal m.fitRenderer.2.journal := by
  unfold fitRenderer
  rcases hresize : m.renderer.resize m.core.display.width m.core.display.height with
    ⟨failure | resized, calls⟩
  · rw [hresize] at hcalls
    exact .calls hcalls
  · rw [hresize] at hcalls
    exact .calls hcalls

/-- A report is recorded with the calls that show its title. -/
theorem adds_report {frames operations : Int} (hreport : P (.title (reportTitle frames operations)))
    (hcalls : ∀ c ∈ (m.renderer.setTitle (reportTitle frames operations)).2, P (.call c)) :
    Journal.Adds P m.journal (m.report frames operations).2.journal := by
  unfold report
  dsimp only [record]
  rcases htitle : m.renderer.setTitle (reportTitle frames operations) with
    ⟨failure | titled, calls⟩
  · rw [htitle] at hcalls
    exact (Journal.Adds.push hreport).trans (.calls hcalls)
  · rw [htitle] at hcalls
    exact (Journal.Adds.push hreport).trans (.calls hcalls)

end Calls

theorem journal_setBuzzer (enabled : Bool) :
    Journal.Adds (fun entry ↦ (∃ on, entry = .buzzer on) ∨ ∃ c, entry = .call c) m.journal
      (m.setBuzzer enabled).journal :=
  m.adds_setBuzzer (.inl ⟨_, rfl⟩) fun c _ ↦ .inr ⟨c, rfl⟩

theorem journal_refreshDisplay :
    Journal.Adds (fun entry ↦ (∃ pixels, entry = .display pixels) ∨
      ∃ c, ¬ c.IsSound ∧ entry = .call c) m.journal m.refreshDisplay.2.journal :=
  m.adds_refreshDisplay (.inl ⟨_, rfl⟩) fun c hc ↦
    .inr ⟨c, (m.renderer.isDrawing_of_refresh m.core.display c hc).not_isSound, rfl⟩

theorem journal_fitRenderer :
    Journal.Adds (fun entry ↦ ∃ c, ¬ c.IsSound ∧ entry = .call c) m.journal
      m.fitRenderer.2.journal :=
  m.adds_fitRenderer fun c hc ↦ ⟨c, (m.renderer.isDrawing_of_resize _ _ c hc).not_isSound, rfl⟩

theorem journal_report (frames operations : Int) :
    Journal.Adds (fun entry ↦ entry = .title (reportTitle frames operations) ∨
      ∃ c, ¬ c.IsSound ∧ entry = .call c) m.journal (m.report frames operations).2.journal :=
  m.adds_report (.inl rfl) fun c hc ↦
    .inr ⟨c, (m.renderer.isDrawing_of_setTitle _ c hc).not_isSound, rfl⟩

variable [TimeNumber α]

/-- **What power-on writes**: a report, and calls that make no sound. -/
theorem journal_create {renderer : Renderer} {inputs : Inputs α} {audio : Audio}
    {speed : Setting α} {debugger : Debugger} {seed : Setting Int} {keypadShared : Bool}
    {m : Machine α} (h : create renderer inputs audio speed debugger seed keypadShared = .ok m) :
    Journal.Adds (fun entry ↦ entry = .title (reportTitle 0 0) ∨ ∃ c, ¬ c.IsSound ∧ entry = .call c) #[]
      m.journal := by
  unfold create at h
  split at h
  · cases h
  · rename_i plug hpowerOn
    obtain ⟨value, number, -, rfl⟩ := exists_plugged hpowerOn
    split at h
    · cases h
    · rename_i fitted hfit
      split at h
      · cases h
      · rename_i reported hreport
        have hlast := fitted.journal_report 0 0
        rw [hreport, Except.ok.inj h] at hlast
        have hfirst := (plugged renderer inputs audio value debugger (Twister.ofSeed number)
          keypadShared).journal_fitRenderer
        rw [hfit] at hfirst
        exact (hfirst.mono fun entry hentry ↦ .inr hentry).trans hlast

/-- A machine on its way back to power-on: the program is not loaded again yet. -/
def cleared : Machine α :=
  { m with
    core := resetCore m.core
    timers := m.timers.reset
    budget := m.budget.forfeit }.setBuzzer false

theorem journal_cleared :
    Journal.Adds (fun entry ↦ (∃ on, entry = .buzzer on) ∨ ∃ c, entry = .call c) m.journal
      m.cleared.journal :=
  journal_setBuzzer { m with
    core := resetCore m.core
    timers := m.timers.reset
    budget := m.budget.forfeit } false

/-- The return to power-on, up to the loading of the program. -/
theorem reset_eq :
    m.reset = if m.cleared.program.isEmpty then (.ok (), m.cleared)
      else m.cleared.load m.cleared.program := rfl

/-- The fields that the return to power-on writes after the buzzer is off. -/
theorem exists_reset_fields :
    ∃ result core program journal, Journal.Adds Entry.IsText m.cleared.journal journal ∧
      m.reset = (result, { m.cleared with core, program, journal }) := by
  rw [reset_eq]
  split
  · exact ⟨_, _, _, _, .refl _, rfl⟩
  · exact m.cleared.exists_load_fields m.cleared.program

/-! ### Parts -/

/-- The kinds of entries that a part writes. -/
def Part.Writes : Part α → Entry α → Prop
  | .poll _ _, _ | .grant _, _ | .ticks _, _ => False
  | .attempt, entry | .step, entry | .load _, entry => entry.IsText
  | .refresh, entry => (∃ pixels, entry = .display pixels) ∨ ∃ c, ¬ c.IsSound ∧ entry = .call c
  | .finish _, entry =>
    (∃ on, entry = .buzzer on) ∨ (∃ c, entry = .call c) ∨ ∃ elapsed, entry = .frame elapsed
  | .reset, entry => (∃ on, entry = .buzzer on) ∨ (∃ c, entry = .call c) ∨ entry.IsText

/-- **What a part writes** is of the kinds that the part is for. -/
theorem journal_pass (part : Part α) : Journal.Adds part.Writes m.journal (m.pass part).journal := by
  cases part with
  | poll events now => exact .refl _
  | grant elapsed => exact .refl _
  | attempt =>
    have hstep := journal_step { m with operations := m.operations + 1 }
    show Journal.Adds Entry.IsText m.journal m.attempt.journal
    unfold attempt
    split <;> (rename_i heq; rw [heq] at hstep; exact hstep)
  | ticks elapsed =>
    show Journal.Adds _ m.journal (m.runTimers elapsed).2.journal
    rcases hadvance : m.timers.advance elapsed with ⟨failure | ticks, timers⟩
    · rw [runTimers_of_error hadvance]
      exact .refl _
    · rw [runTimers_of_ok hadvance]
      exact .refl _
  | refresh => exact m.journal_refreshDisplay
  | finish elapsed =>
    refine ((m.journal_setBuzzer (m.core.registers.st > 0)).mono fun entry hentry ↦ ?_).trans
      (.push (.inr (.inr ⟨elapsed, rfl⟩)))
    exact hentry.imp_right .inl
  | step => exact m.journal_step
  | reset =>
    obtain ⟨result, core, program, journal, hjournal, hreset⟩ := m.exists_reset_fields
    show Journal.Adds _ m.journal m.reset.2.journal
    rw [hreset]
    exact (m.journal_cleared.mono fun entry hentry ↦ hentry.imp_right .inl).trans
      (hjournal.mono fun entry hentry ↦ .inr (.inr hentry))
  | load program =>
    obtain ⟨result, core, program', journal, hjournal, hload⟩ := m.exists_load_fields program
    show Journal.Adds Entry.IsText m.journal (m.load program).2.journal
    rw [hload]
    exact hjournal

variable {m}

/-- The fields that a part leaves alone, unless it shows the display. -/
theorem exists_pass_fields {part : Part α} (h : part ≠ .refresh) :
    ∃ core program timers budget buzzing operations inputs audio journal, m.pass part = { m with
      core, program, timers, budget, buzzing, operations, inputs, audio, journal } := by
  cases part with
  | poll events now => exact ⟨_, _, _, _, _, _, _, _, _, rfl⟩
  | grant elapsed => exact ⟨_, _, _, _, _, _, _, _, _, rfl⟩
  | attempt =>
    obtain ⟨_, hattempt⟩ := m.exists_attempt
    exact ⟨_, _, _, _, _, _, _, _, _, hattempt⟩
  | ticks elapsed =>
    show ∃ core program timers budget buzzing operations inputs audio journal,
      (m.runTimers elapsed).2 = { m with
        core, program, timers, budget, buzzing, operations, inputs, audio, journal }
    rcases hadvance : m.timers.advance elapsed with ⟨failure | ticks, timers⟩
    · rw [runTimers_of_error hadvance]
      exact ⟨_, _, _, _, _, _, _, _, _, rfl⟩
    · rw [runTimers_of_ok hadvance]
      exact ⟨_, _, _, _, _, _, _, _, _, rfl⟩
  | refresh => exact absurd rfl h
  | finish elapsed =>
    obtain ⟨_, _, hbuzzer⟩ := m.exists_setBuzzer (m.core.registers.st > 0)
    exact ⟨_, _, _, _, _, _, _, _, _, congrArg (fun n ↦ n.record (.frame elapsed)) hbuzzer⟩
  | step =>
    obtain ⟨_, hstep⟩ := m.exists_step
    exact ⟨_, _, _, _, _, _, _, _, _, congrArg Prod.snd hstep⟩
  | reset =>
    obtain ⟨_, _, hcleared⟩ := exists_setBuzzer { m with
      core := resetCore m.core
      timers := m.timers.reset
      budget := m.budget.forfeit } false
    obtain ⟨_, _, _, _, -, hreset⟩ := m.exists_reset_fields
    rw [cleared, hcleared] at hreset
    exact ⟨_, _, _, _, _, _, _, _, _, congrArg Prod.snd hreset⟩
  | load program =>
    obtain ⟨_, _, _, _, -, hload⟩ := m.exists_load_fields program
    exact ⟨_, _, _, _, _, _, _, _, _, congrArg Prod.snd hload⟩

end Machine

end ChipEight
