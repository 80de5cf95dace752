import ChipEight.Proofs.Machine.Entries
import ChipEight.Proofs.Machine.Rounds

/-!
# A machine at work uses its host

Displays are brought up and shut down by the session around a machine, never by the machine. While
it works, from power-on to the last round of its loop, a machine uses the host that it finds
(`HostCall.IsUse`), and it shuts no device down. `Machine.work_create` says so for power-on and
`Loop.work_run` for a run of the loop, also where these fail.
-/

namespace ChipEight

variable {α σ : Type}

/-! ### Calls -/

namespace HostCall

/-- The host whose display a call brings up. -/
def opens? : HostCall → Option HostKind
  | .openWindow => some .window
  | .openTerminal => some .terminal
  | _ => none

/-- The host whose display a call shuts down. -/
def closes? : HostCall → Option HostKind
  | .closeWindow => some .window
  | .closeTerminal => some .terminal
  | _ => none

/-- The call neither brings a display up nor shuts one down. -/
def IsUse (c : HostCall) : Prop :=
  c.opens? = none ∧ c.closes? = none

theorem IsDrawing.isUse {c : HostCall} (h : c.IsDrawing) : c.IsUse := by
  cases c <;> first | exact ⟨rfl, rfl⟩ | exact h.elim

end HostCall

/-- The entry is one that a machine may write at work. -/
def Entry.IsWork : Entry α → Prop
  | .shutdown _ => False
  | .call c => c.IsUse
  | _ => True

theorem Entry.IsText.isWork {entry : Entry α} (h : entry.IsText) : entry.IsWork := by
  cases entry
  case log level text => trivial
  case line text => trivial
  all_goals exact h.elim

namespace Audio

theorem isUse_of_setBuzzer (a : Audio) (enabled : Bool) :
    ∀ c ∈ (a.setBuzzer enabled).2, c.IsUse := by
  unfold setBuzzer
  rcases a with ⟨device, buzzing⟩
  cases device <;> cases enabled <;> cases buzzing <;>
    simp [HostCall.IsUse, HostCall.opens?, HostCall.closes?]

theorem isUse_of_create [TimeNumber α] (device : AudioDevice) :
    ∀ c ∈ (create (α := α) device).2, c.IsUse := by
  cases device with
  | silent => simp [create]
  | bell => simp [create]
  | mixer =>
    simp only [create, openMixer]
    split <;> simp [HostCall.IsUse, HostCall.opens?, HostCall.closes?]

theorem isUse_of_closing (a : Audio) : ∀ c ∈ a.closing, c.IsUse := by
  unfold closing
  split <;> simp [HostCall.IsUse, HostCall.opens?, HostCall.closes?]

end Audio

namespace Machine

/-! ### Operations -/

theorem work_report (m : Machine α) (frames operations : Int) :
    Journal.Adds Entry.IsWork m.journal (m.report frames operations).2.journal :=
  m.adds_report trivial fun c hc ↦ (m.renderer.isDrawing_of_setTitle _ c hc).isUse

theorem work_setBuzzer (m : Machine α) (enabled : Bool) :
    Journal.Adds Entry.IsWork m.journal (m.setBuzzer enabled).journal :=
  m.adds_setBuzzer trivial fun c hc ↦ m.audio.isUse_of_setBuzzer enabled c hc

variable [TimeNumber α] (m : Machine α)

/-- A part of an operation uses the host. -/
theorem work_pass (part : Part α) :
    Journal.Adds Entry.IsWork m.journal (m.pass part).journal := by
  have hwrites := m.journal_pass part
  cases part with
  | poll events now => exact hwrites.mono fun entry hentry ↦ hentry.elim
  | grant elapsed => exact hwrites.mono fun entry hentry ↦ hentry.elim
  | ticks elapsed => exact hwrites.mono fun entry hentry ↦ hentry.elim
  | attempt => exact hwrites.mono fun entry ↦ Entry.IsText.isWork
  | step => exact hwrites.mono fun entry ↦ Entry.IsText.isWork
  | load program => exact hwrites.mono fun entry ↦ Entry.IsText.isWork
  | refresh =>
    exact m.adds_refreshDisplay trivial fun c hc ↦
      (m.renderer.isDrawing_of_refresh _ c hc).isUse
  | finish elapsed => exact (m.work_setBuzzer _).trans (.push trivial)
  | reset =>
    obtain ⟨_, _, _, _, htext, hreset⟩ := m.exists_reset_fields
    show Journal.Adds _ m.journal m.reset.2.journal
    rw [hreset]
    exact (work_setBuzzer { m with
      core := resetCore m.core
      timers := m.timers.reset
      budget := m.budget.forfeit } false).trans (htext.mono fun entry ↦ Entry.IsText.isWork)

/-- An operation uses the host, whether it succeeds or not. -/
theorem work_operate (op : Operation α) :
    Journal.Adds Entry.IsWork m.journal (m.operate op).journal := by
  rw [operate_eq]
  exact afterParts_invariant (P := fun n ↦ Journal.Adds Entry.IsWork m.journal n.journal)
    (fun n part hn ↦ hn.trans (n.work_pass part)) (.refl _) _

/-- The report that is due uses the host. -/
theorem work_reportDue (time : α) :
    Journal.Adds Entry.IsWork m.journal (m.reportDue time).2.journal := by
  unfold reportDue
  split
  · split
    · exact .refl _
    · rename_i nextReport _
      have hreport := work_report { m with nextReport } m.framesShown m.operations
      split <;> (rename_i heq; rw [heq] at hreport; exact hreport)
  · exact .refl _

/-! ### Power-on -/

/-- What power-on records, whether it succeeds or not. -/
def created : Except (Failure × Journal α) (Machine α) → Journal α
  | .ok m => m.journal
  | .error (_, journal) => journal

/-- Power-on uses the host, whether it succeeds or not. -/
theorem work_create (renderer : Renderer) (inputs : Inputs α) (audio : Audio) (speed : Setting α)
    (debugger : Debugger) (seed : Setting Int) (keypadShared : Bool) :
    Journal.Adds Entry.IsWork #[]
      (created (create renderer inputs audio speed debugger seed keypadShared)) := by
  unfold create
  split
  · exact .refl _
  · rename_i plug hpowerOn
    obtain ⟨value, number, -, rfl⟩ := exists_plugged hpowerOn
    have hfit := adds_fitRenderer (P := Entry.IsWork) (plugged renderer inputs audio value debugger
      (Twister.ofSeed number) keypadShared) fun c hc ↦ (renderer.isDrawing_of_resize _ _ c hc).isUse
    split
    · rename_i heq
      rw [heq] at hfit
      exact hfit
    · rename_i fitted heq
      rw [heq] at hfit
      have hreport := fitted.work_report 0 0
      split <;> (rename_i heq; rw [heq] at hreport; exact hfit.trans hreport)

end Machine

/-! ### The loop -/

section Loop

variable [TimeNumber α]

/-- A round uses the host. -/
theorem Round.work_after (clock : Clock σ α) (r : Round σ α) :
    Journal.Adds Entry.IsWork r.loop.machine.journal (r.after clock).journal := by
  obtain ⟨journal, hafter, hadds⟩ := r.exists_after clock
  have hend : Journal.Adds Entry.IsWork (r.ran clock).2.journal (r.after clock).journal := by
    rw [hafter]
    refine hadds.mono fun entry hentry ↦ ?_
    obtain ⟨text, rfl⟩ | ⟨left, rfl⟩ := hentry
    all_goals trivial
  refine Journal.Adds.trans ?_ hend
  have hdue := r.loop.machine.work_reportDue r.time
  rcases hframe : r.frame? with - | ⟨reported, elapsed⟩
  · obtain ⟨-, hran⟩ := Round.ran_of_none clock hframe
    rw [hran]
    exact hdue
  · obtain ⟨hreported, -, hran⟩ := Round.ran_of_some clock hframe
    rw [hreported] at hdue
    rw [hran]
    exact hdue.trans (reported.work_operate (.frame elapsed r.loop.events (r.now clock)))

/-- **A run of the loop uses the host.** -/
theorem Loop.work_run (clock : Clock σ α) (count : Nat) (l : Loop σ α) :
    Journal.Adds Entry.IsWork l.machine.journal (l.run clock count).2.machine.journal :=
  Loop.rounds_induction clock
    (motive := fun m _ _ n ↦ Journal.Adds Entry.IsWork m.journal n.journal)
    (fun _ _ ↦ .refl _) (fun r ↦ r.work_after clock)
    (fun r _ _ _ hrest ↦ (r.work_after clock).trans hrest) count l

end Loop

end ChipEight
