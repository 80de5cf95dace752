import ChipEight.Proofs.Machine.Operation
import ChipEight.Proofs.Processor.FaultRules

/-!
# The states that a machine reaches

From power-on, no run leads out of the bounds of `Sound`, whatever the programs, the seed, the clock
speed and the devices are, and whichever operations of the run fail. Within those bounds the five
rules of `Faults` are exact, so they decide every step of a machine that was switched on, and no
other failure can come up.

The steps of a frame start from states within the frame. A frame reaches its core by events only, so
the theorem on faults is about a machine after a run and then any events.
-/

namespace ChipEight

namespace Processor

variable {s : Processor}

/-- Loading a program keeps the bounds. -/
theorem Sound.loaded (h : s.Sound) (program : List UInt8) : (s.loaded program).Sound := by
  unfold Processor.loaded
  split
  · exact h
  · have hsize : (s.memory.setBytes programStart program).size = 4096 := by
      rw [Memory.size_setBytes, h.memory]
    exact { h with memory := hsize }

/-- The return to power-on keeps the bounds. -/
theorem Sound.resetCore (h : s.Sound) : (Machine.resetCore s).Sound where
  __ := sound_initial s.random
  memory := by
    show (s.memory.clear.setBytes Font.address Font.glyphs).size = 4096
    rw [Memory.size_setBytes, Memory.size_clear, h.memory]
  capacity := h.capacity
  width := h.width
  height := h.height
  pixels := by
    show (Array.replicate s.display.pixels.size false).size = 2048
    rw [Array.size_replicate, h.pixels]

theorem coreInvariant_sound : CoreInvariant Sound where
  on _ event h := h.on event
  shown _ h := { h with width := h.width, height := h.height, pixels := h.pixels }
  restarted _ program h := h.resetCore.loaded program

end Processor

namespace Machine

variable {α : Type} [TimeNumber α] {renderer : Renderer} {inputs : Inputs α} {audio : Audio}
  {speed : Setting α} {debugger : Debugger} {seed : Setting Int} {keypadShared : Bool}
  {m : Machine α}

/-- **The bounds hold in every run.** -/
theorem sound_afterAll
    (h : create renderer inputs audio speed debugger seed keypadShared = .ok m)
    (operations : List (Operation α)) : (m.afterAll operations).core.Sound :=
  Processor.coreInvariant_sound.of_create Processor.sound_initial h operations
    fun program _ _ hs ↦ hs.loaded program

/-- The bounds in the runs of a machine with whole clock speed and a scripted keypad. -/
theorem sound_afterAll_scripted :
    ∃ m : Machine Scalar,
      create (Renderer.fresh .headless 1 "") .script Audio.silent (.given (.whole 700)) .absent
        (.given 1) true = .ok m ∧
      ∀ operations, (m.afterAll operations).core.Sound := by
  obtain ⟨m, hm⟩ := exists_create_scripted
  exact ⟨m, hm, sound_afterAll hm⟩

/-- **The rules of the faults are exact.** In front of a step of a machine, wherever a run and
events within a frame have led it, the step fails by a fault of the rules or not at all. -/
theorem step_eq_error_iff_faults
    (h : create renderer inputs audio speed debugger seed keypadShared = .ok m)
    (operations : List (Operation α)) (events : List Event) {s : Processor}
    (hs : s = (m.afterAll operations).core.after events) :
    (∀ failure, s.step.1 = .error failure ↔ ∃ fault, failure = .fault fault ∧ s.Faults fault) ∧
      ((∃ outcome, s.step.1 = .ok outcome) ↔ ∀ fault, ¬ s.Faults fault) := by
  have hrun := Processor.coreInvariant_sound.of_create Processor.sound_initial h operations
    fun program _ _ hs ↦ hs.loaded program
  have hsound : s.Sound := hs ▸ Processor.after_invariant (fun _ event hs ↦ hs.on event) hrun events
  have herror (failure : Failure) :
      s.step.1 = .error failure ↔ ∃ fault, failure = .fault fault ∧ s.Faults fault :=
    Processor.step_eq_error_iff.trans hsound.stepFailure?_eq_some_iff
  refine ⟨herror, ?_⟩
  constructor
  · rintro ⟨outcome, houtcome⟩ fault hfault
    have hfails := (herror _).2 ⟨fault, rfl, hfault⟩
    rw [houtcome] at hfails
    cases hfails
  · intro hnone
    rcases hresult : s.step.1 with failure | outcome
    · obtain ⟨fault, -, hfault⟩ := (herror failure).1 hresult
      exact absurd hfault (hnone fault)
    · exact ⟨outcome, rfl⟩

/-- The rules for a machine with a scripted keypad. -/
theorem step_eq_error_iff_faults_scripted :
    ∃ m : Machine Scalar,
      create (Renderer.fresh .headless 1 "") .script Audio.silent (.given (.whole 700)) .absent
        (.given 1) true = .ok m ∧
      ∀ program failure, (m.afterAll [.load program]).core.step.1 = .error failure ↔
        ∃ fault, failure = .fault fault ∧ (m.afterAll [.load program]).core.Faults fault := by
  obtain ⟨m, hm⟩ := exists_create_scripted
  exact ⟨m, hm, fun program ↦ (step_eq_error_iff_faults hm [.load program] [] rfl).1⟩

end Machine

end ChipEight
