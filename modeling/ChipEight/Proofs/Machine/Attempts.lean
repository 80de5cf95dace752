import ChipEight.Proofs.Machine.Action

/-!
# The instructions that a machine attempts

`attempts` lists the states in front of the instructions that an action attempts, and `attemptsAll`
those of a run of actions. Only a frame attempts more than one instruction, and a frame whose
instruction fails fails with it (`runFrame_of_attempt_error`), so the results of the attempts are
the ones that the operations report.
-/

namespace ChipEight.Machine

variable {α : Type} [TimeNumber α] {m : Machine α}

/-- The states in front of the instructions that an elapsed time allows. -/
def attemptsWithin (m : Machine α) (elapsed : α) : List Processor :=
  match m.budget.grant elapsed with
  | (.ok cycles, _) => m.core.attempts cycles.toNat
  | (.error _, _) => []

/-- The states in front of the instructions that an action attempts. -/
def attempts (m : Machine α) : Action α → List Processor
  | .operation (.frame elapsed events now) =>
    match m.poll events now with
    | (.ok false, polled) => polled.attemptsWithin elapsed
    | (.ok true, _) | (.error _, _) => []
  | .operation .step | .event .step => [m.core]
  | .operation .reset | .operation (.load _) | .operation .refresh => []
  | .event .tick | .event (.press _) | .event (.release _) => []

theorem attempts_frame_of_poll {elapsed : α} {events : List HostEvent} {now : α}
    {polled : Machine α} (h : m.poll events now = (.ok false, polled)) :
    m.attempts (.operation (.frame elapsed events now)) = polled.attemptsWithin elapsed := by
  rw [attempts, h]

/-- A frame whose poll fails or asks to quit attempts nothing. -/
theorem attempts_frame_of_ne {elapsed : α} {events : List HostEvent} {now : α}
    {result : Except Failure Bool} {polled : Machine α} (h : m.poll events now = (result, polled))
    (hresult : result ≠ .ok false) : m.attempts (.operation (.frame elapsed events now)) = [] := by
  rw [attempts, h]
  rcases result with failure | quit
  · rfl
  · cases quit
    · exact absurd rfl hresult
    · rfl

/-- The states in front of the instructions that a run of actions attempts. -/
def attemptsAll (m : Machine α) : List (Action α) → List Processor
  | [] => []
  | action :: rest => m.attempts action ++ (m.act action).attemptsAll rest

/-! ### Frames -/

section Frame

variable {elapsed : α} {events : List HostEvent} {now : α} {t : Processor}

/-- The instructions of a frame, counted. -/
theorem operations_runInstructions (m : Machine α) (elapsed : α) :
    (m.runInstructions elapsed).2.operations =
      m.operations + (m.attemptsWithin elapsed).length := by
  unfold runInstructions attemptsWithin
  rcases m.budget.grant elapsed with ⟨failure | cycles, budget⟩
  · rfl
  · obtain ⟨journal, hrun⟩ := exists_runCycles { m with budget } cycles.toNat
    dsimp only
    rw [hrun]

/-- The instructions that an elapsed time allows end with the first one that fails. -/
theorem runInstructions_of_attempt_error {failure : Failure} (ht : t ∈ m.attemptsWithin elapsed)
    (hfails : t.step.1 = .error failure) : (m.runInstructions elapsed).1 = .error failure := by
  unfold attemptsWithin at ht
  rcases hgrant : m.budget.grant elapsed with ⟨failure | cycles, budget⟩
  · rw [hgrant] at ht
    cases ht
  · rw [hgrant] at ht
    have hburst := Processor.burst_of_mem_attempts ht (hfails ▸ Processor.ends_error failure)
    obtain ⟨operations, journal, hrun⟩ := exists_runInstructions hgrant
    rw [hrun, hburst, hfails]
    rfl

/-- **A frame whose instruction fails** fails with it. -/
theorem runFrame_of_attempt_error {failure : Failure}
    (ht : t ∈ m.attempts (.operation (.frame elapsed events now)))
    (hfails : t.step.1 = .error failure) :
    (m.runFrame elapsed events now).1 = .error failure := by
  rcases hpoll : m.poll events now with ⟨result, polled⟩
  by_cases hgoes : result = .ok false
  · subst hgoes
    rw [attempts_frame_of_poll hpoll] at ht
    have hran := runInstructions_of_attempt_error ht hfails
    rw [runFrame_of_poll hpoll]
    rcases hrun : polled.runInstructions elapsed with ⟨result, ran⟩
    rw [hrun] at hran
    obtain rfl : result = .error failure := hran
    rfl
  · rw [attempts_frame_of_ne hpoll hgoes] at ht
    cases ht

end Frame

end ChipEight.Machine
