import ChipEight.Proofs.Machine.Attempts
import ChipEight.Proofs.Machine.Running

/-!
# The parts of an operation

A frame polls, is granted cycles, attempts instructions one by one, applies ticks, shows the display
and ends with the buzzer. Each of these parts is done or fails as a whole, and a failure is the end
of the frame, with the parts before it done. The other operations are parts of their own.

`parts` lists the parts that an operation goes through, and `operate_eq` says that doing them one
after another is the operation. So what every part keeps holds at every moment of a run: not only
between operations, but also between two instructions of a frame, and where a frame broke off. A
moment of a run is the machine after a prefix of `partsAll`.

-/

namespace ChipEight.Machine

variable {α : Type}

/-- The parts that operations are made of. -/
inductive Part (α : Type)
  /-- The inputs are polled. -/
  | poll (events : List HostEvent) (now : α)
  /-- The cycles of an elapsed time are granted. -/
  | grant (elapsed : α)
  /-- An instruction of a frame is attempted. -/
  | attempt
  /-- The ticks of an elapsed time are applied. -/
  | ticks (elapsed : α)
  /-- The display is shown, if it changed. -/
  | refresh
  /-- A frame that made up for an elapsed time ends. -/
  | finish (elapsed : α)
  /-- An instruction is attempted outside of a frame. -/
  | step
  /-- The machine returns to power-on. -/
  | reset
  /-- A program is loaded. -/
  | load (program : List UInt8)

/-- The end of a frame: the buzzer follows the sound timer. -/
def finish (m : Machine α) (elapsed : α) : Machine α :=
  (m.setBuzzer (m.core.registers.st > 0)).record (.frame elapsed)

variable [TimeNumber α]

/-- An instruction of a frame is counted, and a wait for a key forfeits the credit. -/
def attempt (m : Machine α) : Machine α :=
  match { m with operations := m.operations + 1 }.step with
  | (.ok .wait, m) => { m with budget := m.budget.forfeit }
  | (.ok _, m) | (.error _, m) => m

/-- The machine after a part, whether the part fails or not. -/
def pass (m : Machine α) : Part α → Machine α
  | .poll events now => (m.poll events now).2
  | .grant elapsed => { m with budget := (m.budget.grant elapsed).2 }
  | .attempt => m.attempt
  | .ticks elapsed => (m.runTimers elapsed).2
  | .refresh => m.refreshDisplay.2
  | .finish elapsed => m.finish elapsed
  | .step => m.step.2
  | .reset => m.reset.2
  | .load program => (m.load program).2

/-- The machine after parts in turn. -/
def afterParts (m : Machine α) (parts : List (Part α)) : Machine α :=
  parts.foldl pass m

/-- The parts that follow one that may fail. -/
def partsBehind {β : Type} (done : Except Failure β × Machine α)
    (next : Machine α → List (Part α)) : List (Part α) :=
  match done with
  | (.ok _, m) => next m
  | (.error _, _) => []

/-- The parts of a frame behind its poll. -/
def partsWithin (m : Machine α) (elapsed : α) : List (Part α) :=
  .grant elapsed :: (List.replicate (m.attemptsWithin elapsed).length .attempt ++
    partsBehind (m.runInstructions elapsed) fun m ↦
      .ticks elapsed :: partsBehind (m.runTimers elapsed) fun m ↦
        .refresh :: partsBehind m.refreshDisplay fun _ ↦ [.finish elapsed])

/-- The parts that an operation goes through. -/
def parts (m : Machine α) : Operation α → List (Part α)
  | .frame elapsed events now =>
    .poll events now ::
      match m.poll events now with
      | (.ok false, polled) => polled.partsWithin elapsed
      | (.ok true, _) | (.error _, _) => []
  | .step => [.step]
  | .reset => [.reset]
  | .load program => [.load program]
  | .refresh => [.refresh]

/-- The parts that a run of operations goes through. -/
def partsAll (m : Machine α) : List (Operation α) → List (Part α)
  | [] => []
  | op :: rest => m.parts op ++ (m.operate op).partsAll rest

variable {m : Machine α} {part : Part α}

theorem afterParts_cons (m : Machine α) (part : Part α) (rest : List (Part α)) :
    m.afterParts (part :: rest) = (m.pass part).afterParts rest := rfl

theorem afterParts_append (m : Machine α) (before since : List (Part α)) :
    m.afterParts (before ++ since) = (m.afterParts before).afterParts since :=
  List.foldl_append ..

theorem afterParts_concat (m : Machine α) (before : List (Part α)) (part : Part α) :
    m.afterParts (before ++ [part]) = (m.afterParts before).pass part :=
  List.foldl_concat ..

/-- **Moments.** What every part keeps holds after any parts. -/
theorem afterParts_invariant {P : Machine α → Prop} (hpass : ∀ n part, P n → P (n.pass part))
    (h : P m) (parts : List (Part α)) : P (m.afterParts parts) := by
  induction parts generalizing m with
  | nil => exact h
  | cons part rest ih => exact ih (hpass m part h)

/-! ### An operation is its parts -/

/-- The fields that an instruction of a frame writes. -/
theorem exists_attempt (m : Machine α) : ∃ journal, m.attempt = { m with
    core := m.core.step.2
    operations := m.operations + 1
    budget := if m.core.step.1 = .ok .wait then m.budget.forfeit else m.budget
    journal } := by
  obtain ⟨journal, hstep⟩ := exists_step { m with operations := m.operations + 1 }
  unfold attempt
  rw [hstep]
  dsimp only
  rcases m.core.step with ⟨failure | o, t⟩
  · exact ⟨_, rfl⟩
  · cases o
    all_goals exact ⟨_, rfl⟩

/-- A run of cycles is the instructions that it attempts. -/
theorem runCycles_eq (m : Machine α) (cycles : Nat) :
    (runCycles cycles m).2 =
      m.afterParts (List.replicate (m.core.attempts cycles).length .attempt) := by
  induction cycles generalizing m with
  | zero => rfl
  | succ cycles ih =>
    obtain ⟨journal, hstep⟩ := exists_step { m with operations := m.operations + 1 }
    have hattempt : m.pass .attempt = m.attempt := rfl
    unfold runCycles
    unfold attempt at hattempt
    rw [hstep] at hattempt ⊢
    obtain ⟨result, t, hresult, hends⟩ | ⟨o, t, hresult, ho⟩ := m.core.ends_or_goes
    · rw [Processor.attempts_succ_of_ends hresult hends, List.length_singleton,
        List.replicate_one, afterParts_cons, hattempt, hresult]
      rcases result with failure | o
      · rfl
      · rw [hends o rfl]
        rfl
    · rw [Processor.attempts_succ_of_goes hresult ho, List.length_cons, List.replicate_succ,
        afterParts_cons, hattempt, hresult]
      cases o
      case wait => exact absurd rfl ho
      all_goals exact ih _

/-- The instructions that an elapsed time allows are a grant and attempts. -/
theorem runInstructions_eq (m : Machine α) (elapsed : α) :
    (m.runInstructions elapsed).2 = m.afterParts
      (.grant elapsed :: List.replicate (m.attemptsWithin elapsed).length .attempt) := by
  unfold runInstructions attemptsWithin
  rw [afterParts_cons, pass]
  rcases m.budget.grant elapsed with ⟨failure | cycles, budget⟩
  · rfl
  · exact runCycles_eq _ _

/-- Where a part that may fail is done as some parts, so is what follows it. -/
theorem andThen_eq_afterParts {β γ : Type} {first : Except Failure β × Machine α}
    {next : β → Machine α → Except Failure γ × Machine α} (done : List (Part α))
    {rest : Machine α → List (Part α)} (hfirst : first.2 = m.afterParts done)
    (hnext : ∀ result n, (next result n).2 = n.afterParts (rest n)) :
    (andThen first next).2 = m.afterParts (done ++ partsBehind first rest) := by
  rw [afterParts_append, ← hfirst]
  rcases first with ⟨failure | result, n⟩
  · rfl
  · exact hnext result n

/-- **An operation is its parts**, one after another. -/
theorem operate_eq (m : Machine α) (op : Operation α) :
    m.operate op = m.afterParts (m.parts op) := by
  cases op with
  | frame elapsed events now =>
    show (m.runFrame elapsed events now).2 = m.afterParts (m.parts (.frame elapsed events now))
    rcases hpoll : m.poll events now with ⟨result, polled⟩
    have hpolled : m.pass (.poll events now) = polled := congrArg Prod.snd hpoll
    unfold parts
    rw [afterParts_cons, hpolled, hpoll]
    by_cases hgoes : result = .ok false
    · subst hgoes
      rw [runFrame_of_poll hpoll]
      refine andThen_eq_afterParts _ (polled.runInstructions_eq elapsed) fun _ ran ↦ ?_
      refine andThen_eq_afterParts [.ticks elapsed] rfl fun _ ticked ↦ ?_
      exact andThen_eq_afterParts [.refresh] rfl fun _ shown ↦ rfl
    · rw [runFrame_of_ne hpoll hgoes]
      rcases result with failure | quit
      · rfl
      · cases quit
        · exact absurd rfl hgoes
        · rfl
  | step => rfl
  | reset => rfl
  | load program => rfl
  | refresh => rfl

/-- **A run of operations is its parts**, one after another. -/
theorem afterAll_eq (m : Machine α) (operations : List (Operation α)) :
    m.afterAll operations = m.afterParts (m.partsAll operations) := by
  induction operations generalizing m with
  | nil => rfl
  | cons op rest ih =>
    show (m.operate op).afterAll rest = _
    rw [ih, partsAll, afterParts_append, ← operate_eq]

/-! ### Machines that run -/

/-- A part keeps what a machine runs with, except that it may load another program. -/
theorem Running.pass {speed : α} {keypadShared : Bool} {program : List UInt8}
    (h : Running speed keypadShared program m) (part : Part α) :
    ∃ program, Running speed keypadShared program (m.pass part) := by
  cases part with
  | poll events now => exact ⟨program, h.poll events now⟩
  | grant elapsed =>
    exact ⟨program, { h with speed := (m.budget.speed_grant elapsed).trans h.speed }⟩
  | attempt =>
    have hsound : m.core.step.2.Sound := h.sound.on .step
    obtain ⟨journal, hattempt⟩ := m.exists_attempt
    refine ⟨program, ?_⟩
    show Running speed keypadShared program m.attempt
    rw [hattempt]
    refine { h with sound := hsound, speed := ?_ }
    dsimp only
    split
    · exact h.speed
    · exact h.speed
  | ticks elapsed => exact ⟨program, h.runTimers elapsed⟩
  | refresh => exact ⟨program, h.refreshDisplay⟩
  | finish elapsed => exact ⟨program, (h.setBuzzer _).record _⟩
  | step => exact ⟨program, h.step⟩
  | reset => exact ⟨program, h.reset⟩
  | load loaded => exact ⟨_, h.act (.operation (.load loaded))⟩

/-- At every moment of a run, a machine runs with some program. -/
theorem Running.afterParts {speed : α} {keypadShared : Bool} {program : List UInt8}
    (h : Running speed keypadShared program m) (parts : List (Part α)) :
    ∃ program, Running speed keypadShared program (m.afterParts parts) :=
  afterParts_invariant (P := fun n ↦ ∃ program, Running speed keypadShared program n)
    (fun _ part ⟨_, hn⟩ ↦ hn.pass part) ⟨program, h⟩ parts

end ChipEight.Machine
