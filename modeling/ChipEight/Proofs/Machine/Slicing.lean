import ChipEight.Proofs.Machine.Attempts
import ChipEight.Proofs.Processor.HostSide
import ChipEight.Proofs.TimeNumber.Exact

/-!
# Slicing a run into frames

A program cannot tell how its run is cut into frames. What a machine does between two instructions
(polling, ticks, showing the display, the buzzer) reaches the processor on the host's side only, and
the instructions look there only where they ask for a key or for the delay timer.

So a run of actions that neither returns to power-on nor loads a program is, for the work of the
core, nothing but the instructions that it attempts (`leads_afterActions`). Two runs that start with
the same work and attempt equally many of them do the same (`slicing_irrelevant`), as long as one of
the two runs does not ask. The frames of one run may be cut differently from those of the other, the
two machines may have different clock speeds, devices and timers, and even measure time by different
kinds of number.
-/

namespace ChipEight.Machine

open Processor (SameWork Leads)

variable {α : Type} [TimeNumber α] (m : Machine α)

/-! ### Stages -/

theorem sameWork_poll (events : List HostEvent) (now : α) :
    SameWork m.core (m.poll events now).2.core := by
  unfold poll
  dsimp only
  split
  · exact ⟨rfl, rfl, rfl, rfl, rfl, rfl, rfl, rfl, rfl, rfl⟩
  · exact SameWork.refl m.core

theorem sameWork_runTimers (elapsed : α) : SameWork m.core (m.runTimers elapsed).2.core := by
  rcases hadvance : m.timers.advance elapsed with ⟨failure | ticks, timers⟩
  · rw [runTimers_of_error hadvance]
    exact SameWork.refl m.core
  · rw [runTimers_of_ok hadvance]
    exact ⟨rfl, rfl, rfl, rfl, rfl, rfl, rfl, rfl, rfl, rfl⟩

omit [TimeNumber α] in
theorem sameWork_refreshDisplay : SameWork m.core m.refreshDisplay.2.core := by
  obtain ⟨result, dirty, renderer, framesShown, journal, hrefresh⟩ := m.exists_refreshDisplay_fields
  rw [hrefresh]
  exact ⟨rfl, rfl, rfl, rfl, rfl, rfl, rfl, rfl, rfl, rfl⟩

/-- The instructions of a frame are a burst of the core. -/
theorem leads_runInstructions (elapsed : α) :
    Leads m.core (m.attemptsWithin elapsed) (m.runInstructions elapsed).2.core := by
  unfold attemptsWithin
  rcases hgrant : m.budget.grant elapsed with ⟨failure | cycles, budget⟩
  · rw [runInstructions_of_error hgrant]
    exact .done (SameWork.refl m.core)
  · obtain ⟨operations, journal, hrun⟩ := exists_runInstructions hgrant
    rw [hrun]
    exact Processor.leads_burst m.core cycles.toNat

/-! ### Actions -/

/-- A frame is the instructions that it attempts, and else nothing but the host's side. -/
theorem leads_runFrame (elapsed : α) (events : List HostEvent) (now : α) :
    Leads m.core (m.attempts (.operation (.frame elapsed events now)))
      (m.runFrame elapsed events now).2.core := by
  have hstart := m.sameWork_poll events now
  rcases hpoll : m.poll events now with ⟨result, polled⟩
  rw [hpoll] at hstart
  by_cases hgoes : result = .ok false
  · subst hgoes
    rw [attempts_frame_of_poll hpoll, runFrame_of_poll hpoll]
    have hran := Leads.of_sameWork hstart (polled.leads_runInstructions elapsed)
    -- The stages after the instructions leave the work as it is.
    refine andThen_invariant (P := fun n ↦ Leads m.core (polled.attemptsWithin elapsed) n.core)
      hran fun _ ran hran ↦ ?_
    refine andThen_invariant (P := fun n ↦ Leads m.core (polled.attemptsWithin elapsed) n.core)
      (hran.trans_sameWork (ran.sameWork_runTimers elapsed)) fun _ ticked hticked ↦ ?_
    refine andThen_invariant (P := fun n ↦ Leads m.core (polled.attemptsWithin elapsed) n.core)
      (hticked.trans_sameWork ticked.sameWork_refreshDisplay) fun _ shown hshown ↦ ?_
    show Leads m.core _ (shown.setBuzzer _).core
    rwa [setBuzzer_core]
  · rw [attempts_frame_of_ne hpoll hgoes, runFrame_of_ne hpoll hgoes]
    exact .done hstart

/-- The action goes on with the program: it does not return to power-on and does not load. -/
def Action.GoesOn : Action α → Prop
  | .operation .reset | .operation (.load _) => False
  | _ => True

theorem leads_act {action : Action α} (haction : action.GoesOn) :
    Leads m.core (m.attempts action) (m.act action).core := by
  have hstep : Leads m.core [m.core] m.core.step.2 :=
    .step (SameWork.refl m.core) (.done (SameWork.refl m.core.step.2))
  cases action with
  | event event =>
    cases event with
    | step => exact hstep
    | tick => exact .done ⟨rfl, rfl, rfl, rfl, rfl, rfl, rfl, rfl, rfl, rfl⟩
    | press key => exact .done ⟨rfl, rfl, rfl, rfl, rfl, rfl, rfl, rfl, rfl, rfl⟩
    | release key => exact .done ⟨rfl, rfl, rfl, rfl, rfl, rfl, rfl, rfl, rfl, rfl⟩
  | operation op =>
    cases op with
    | frame elapsed events now => exact m.leads_runFrame elapsed events now
    | step =>
      show Leads m.core [m.core] m.step.2.core
      rwa [core_step]
    | reset => cases haction
    | load => cases haction
    | refresh => exact .done m.sameWork_refreshDisplay

/-- **A run is its instructions.** A run of actions that goes on with the program is, for the work
of the core, the instructions that it attempts. -/
theorem leads_afterActions {actions : List (Action α)}
    (hactions : ∀ action ∈ actions, action.GoesOn) :
    Leads m.core (m.attemptsAll actions) (m.afterActions actions).core := by
  induction actions generalizing m with
  | nil => exact .done (SameWork.refl m.core)
  | cons action rest ih =>
    have hfirst := m.leads_act (hactions action List.mem_cons_self)
    exact hfirst.append (ih (m.act action) fun later hlater ↦
      hactions later (List.mem_cons_of_mem action hlater))

/-- **Frame slicing and timers do not leak into the program.** Two machines start with the same
work, whatever their timers are, and go on with it by runs of actions (frames of any length, single
steps, ticks, keys, the display shown) in which they attempt equally many instructions. If the first
one executes none that reads the delay timer or looks at keys, the second one's instructions succeed
and fail as the first one's do, one by one and with the same failures, and both machines end with
the same memory, byte registers, index register, program counter, call stack, pixels, opcode and
source of random bytes. A frame whose instruction fails fails with it, so these failures are what
the machines report. -/
theorem slicing_irrelevant {β : Type} [TimeNumber β] {m : Machine α} {n : Machine β}
    (hstart : SameWork m.core n.core) {actions : List (Action α)} {others : List (Action β)}
    (hactions : ∀ action ∈ actions, action.GoesOn) (hothers : ∀ action ∈ others, action.GoesOn)
    (hlength : (m.attemptsAll actions).length = (n.attemptsAll others).length)
    (hasks : ∀ s ∈ m.attemptsAll actions, ¬ s.AsksHost) :
    (n.attemptsAll others).map (fun s ↦ s.step.1) = (m.attemptsAll actions).map (fun s ↦ s.step.1) ∧
      SameWork (m.afterActions actions).core (n.afterActions others).core :=
  (m.leads_afterActions hactions).sameWork (n.leads_afterActions hothers) hstart hlength hasks

/-- A machine of a hundred instructions a second, with a program that sets both timers, draws, and
fails by a return for which there was no call. -/
def drawingMachine (delay sound : Int) : Machine ℚ :=
  let m := plugged (Renderer.fresh .headless 1 "") .script Audio.silent 100 .absent ⟨#[], 0⟩ true
  let core := Processor.bare #[0x60, 0x05, 0xF0, 0x15, 0xF0, 0x18, 0xD0, 0x02, 0x00, 0xEE]
  { m with core := { core with registers := { core.registers with dt := delay, st := sound } } }

/-- Two frames of two instructions and a single step. -/
def evenFrames : List (Action ℚ) :=
  [.operation (.frame (1 / 50) [] 0), .operation (.frame (1 / 50) [] 0), .operation .step]

/-- A tick and the display shown, a short frame and a key. -/
def shortFrame : List (Action ℚ) :=
  [.event .tick, .operation .refresh, .operation (.frame (1 / 100) [] 0),
    .event (.press (Nibble.ofNat 3))]

/-- A short frame, and a long frame with the rest. -/
def unevenFrames : List (Action ℚ) :=
  shortFrame ++ [.operation (.frame (1 / 25) [] 0)]

/-- That program cut in two ways, under different timers. The fault that a single step meets in the
one is what the long frame of the other reports. -/
theorem slicing_irrelevant_drawing :
    SameWork (drawingMachine 0 0).core (drawingMachine 9 200).core ∧
      (∀ s ∈ (drawingMachine 0 0).attemptsAll evenFrames, ¬ s.AsksHost) ∧
      ((drawingMachine 9 200).attemptsAll unevenFrames).map (fun s ↦ s.step.1) =
        [.ok .next, .ok .next, .ok .next, .ok .next, .error (.fault .stackUnderflow)] ∧
      (((drawingMachine 9 200).afterActions shortFrame).runFrame (1 / 25) [] 0).1 =
        .error (.fault .stackUnderflow) ∧
      SameWork ((drawingMachine 0 0).afterActions evenFrames).core
        ((drawingMachine 9 200).afterActions unevenFrames).core := by
  have hstart : SameWork (drawingMachine 0 0).core (drawingMachine 9 200).core :=
    ⟨rfl, rfl, rfl, rfl, rfl, rfl, rfl, rfl, rfl, rfl⟩
  have heven : ∀ action ∈ evenFrames, action.GoesOn := by simp [evenFrames, Action.GoesOn]
  have huneven : ∀ action ∈ unevenFrames, action.GoesOn := by
    simp [unevenFrames, shortFrame, Action.GoesOn]
  have hasks : ∀ s ∈ (drawingMachine 0 0).attemptsAll evenFrames, ¬ s.AsksHost := by decide +kernel
  have hresults : ((drawingMachine 0 0).attemptsAll evenFrames).map (fun s ↦ s.step.1) =
      [.ok .next, .ok .next, .ok .next, .ok .next, .error (.fault .stackUnderflow)] := by
    decide +kernel
  obtain ⟨t, ht, hfails⟩ : ∃ t ∈ ((drawingMachine 9 200).afterActions shortFrame).attempts
      (.operation (.frame (1 / 25) [] 0)), t.step.1 = .error (.fault .stackUnderflow) := by
    decide +kernel
  obtain ⟨hsame, hend⟩ := slicing_irrelevant hstart heven huneven (by decide +kernel) hasks
  exact ⟨hstart, hasks, hsame.trans hresults, runFrame_of_attempt_error ht hfails, hend⟩

end ChipEight.Machine
