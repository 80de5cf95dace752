import ChipEight.Proofs.Machine.Attempts
import ChipEight.Proofs.Pacing.Accounts

/-!
# Instructions follow the time

How many instructions a machine attempts in a sequence of frames that all complete. Each frame
grants the whole cycles of its elapsed time and of the credit carried over. A frame without a wait
for a key uses them up, so the instructions and the credit together are what came in. A frame with
one stops at the wait and forfeits the rest and the credit, so there they are at most what came in,
and nothing is saved up for after the wait.

Along a sequence of frames the credits in between cancel. So the instructions since the last wait
are the floor of what the time since then stands for, and those of the whole sequence are at most
the floor of what its time stands for (`instructions_follow_time`).
-/

namespace ChipEight

/-- What a frame is given. -/
structure Frame (α : Type) where
  /-- The time elapsed since the last one. -/
  elapsed : α
  /-- The events reported since then. -/
  events : List HostEvent
  /-- The time of the poll. -/
  now : α

namespace Machine

variable {α : Type}

/-- The action of running a frame. -/
def Action.ofFrame (f : Frame α) : Action α :=
  .operation (.frame f.elapsed f.events f.now)

section Frames

variable [TimeNumber α]

/-- The machine after frames in turn. -/
def afterFrames (m : Machine α) (frames : List (Frame α)) : Machine α :=
  m.afterActions (frames.map Action.ofFrame)

/-- The states in front of the instructions that frames attempt in turn. -/
def framesAttempts (m : Machine α) (frames : List (Frame α)) : List Processor :=
  m.attemptsAll (frames.map Action.ofFrame)

/-- Every frame completes: no poll asks to quit, and nothing fails. -/
def Completes (m : Machine α) : List (Frame α) → Prop
  | [] => True
  | f :: rest =>
    (m.runFrame f.elapsed f.events f.now).1 = .ok true ∧ (m.act (.ofFrame f)).Completes rest

/-- The frame meets a wait for a key. -/
def Waits (m : Machine α) (f : Frame α) : Prop :=
  ∃ s ∈ m.attempts (.ofFrame f), s.step.1 = .ok .wait

variable {m n : Machine α} {f : Frame α} {before since : List (Frame α)}

theorem afterFrames_cons (m : Machine α) (f : Frame α) (rest : List (Frame α)) :
    m.afterFrames (f :: rest) = (m.act (.ofFrame f)).afterFrames rest := rfl

theorem framesAttempts_cons (m : Machine α) (f : Frame α) (rest : List (Frame α)) :
    m.framesAttempts (f :: rest) =
      m.attempts (.ofFrame f) ++ (m.act (.ofFrame f)).framesAttempts rest := rfl

theorem completes_append :
    m.Completes (before ++ since) ↔
      m.Completes before ∧ (m.afterFrames before).Completes since := by
  induction before generalizing m with
  | nil => exact ⟨fun h ↦ ⟨trivial, h⟩, fun h ↦ h.2⟩
  | cons f rest ih =>
    rw [List.cons_append, Completes, Completes, afterFrames_cons, ih, and_assoc]

/-! ### One frame -/

/-- The ticks of a frame leave the budget and the count of instructions alone. -/
theorem budget_runTimers (m : Machine α) (elapsed : α) :
    (m.runTimers elapsed).2.budget = m.budget ∧
      (m.runTimers elapsed).2.operations = m.operations := by
  rcases hadvance : m.timers.advance elapsed with ⟨failure | ticks, timers⟩
  · rw [runTimers_of_error hadvance]
    exact ⟨rfl, rfl⟩
  · rw [runTimers_of_ok hadvance]
    exact ⟨rfl, rfl⟩

/-- A frame that completes is a poll that lets the machine go on, and instructions that succeed.
What follows them leaves the budget and the count of instructions alone. -/
theorem exists_of_runFrame_eq_true {elapsed now : α} {events : List HostEvent}
    (h : m.runFrame elapsed events now = (.ok true, n)) :
    ∃ polled ran, m.poll events now = (.ok false, polled) ∧
      polled.runInstructions elapsed = (.ok (), ran) ∧
      n.budget = ran.budget ∧ n.operations = ran.operations := by
  obtain ⟨polled, ran, ticked, shown, hpoll, hran, hticked, hshown, rfl⟩ :=
    exists_stages_of_runFrame h
  have hticks := ran.budget_runTimers elapsed
  obtain ⟨_, _, _, _, _, hshow⟩ := ticked.exists_refreshDisplay_fields
  obtain ⟨_, _, hbuzzer⟩ := shown.exists_setBuzzer (shown.core.registers.st > 0)
  rw [hticked] at hticks
  rw [hshow] at hshown
  rw [hbuzzer]
  cases hshown
  exact ⟨polled, ran, hpoll, hran, hticks⟩

/-- Instructions that succeed are a burst of the core within the cycles granted. A wait forfeits the
credit. -/
theorem exists_of_runInstructions_eq_ok {elapsed : α}
    (h : m.runInstructions elapsed = (.ok (), n)) :
    ∃ cycles budget o, m.budget.grant elapsed = (.ok cycles, budget) ∧
      m.attemptsWithin elapsed = m.core.attempts cycles.toNat ∧
      (m.core.burst cycles.toNat).1 = .ok o ∧
      n.budget = if o = .wait then budget.forfeit else budget := by
  unfold attemptsWithin
  rcases hgrant : m.budget.grant elapsed with ⟨failure | cycles, budget⟩
  · rw [runInstructions_of_error hgrant] at h
    cases h
  · obtain ⟨operations, journal, hrun⟩ := exists_runInstructions hgrant
    obtain ⟨hresult, hran⟩ := Prod.mk.inj (h.symm.trans hrun)
    rcases hburst : (m.core.burst cycles.toNat).1 with failure | o
    · rw [hburst] at hresult
      cases hresult
    · refine ⟨cycles, budget, o, rfl, rfl, hburst, ?_⟩
      rw [hran, hburst]
      simp only [Except.ok.injEq]

/-- **A frame that completes** attempts the instructions of a burst, within the cycles granted, that
does not fail. -/
theorem exists_burst_of_runFrame {elapsed now : α} {events : List HostEvent}
    (h : m.runFrame elapsed events now = (.ok true, n)) :
    ∃ (start : Processor) (cycles : Int) (budget : CycleBudget α) (o : Outcome),
      m.budget.grant elapsed = (.ok cycles, budget) ∧
      m.attempts (.operation (.frame elapsed events now)) = start.attempts cycles.toNat ∧
      (start.burst cycles.toNat).1 = .ok o ∧
      n.budget = (if o = .wait then budget.forfeit else budget) ∧
      n.operations = m.operations + (start.attempts cycles.toNat).length := by
  obtain ⟨polled, ran, hpoll, hran, hbudget, hoperations⟩ := exists_of_runFrame_eq_true h
  have hpolled : polled.budget = m.budget ∧ polled.operations = m.operations :=
    ⟨(congrArg (fun done ↦ done.2.budget) hpoll).symm,
      (congrArg (fun done ↦ done.2.operations) hpoll).symm⟩
  have hcounted := polled.operations_runInstructions elapsed
  obtain ⟨cycles, budget, o, hgrant, hwithin, hburst, hspent⟩ :=
    exists_of_runInstructions_eq_ok hran
  rw [hran, hwithin, hpolled.2, ← hoperations] at hcounted
  rw [hpolled.1] at hgrant
  exact ⟨polled.core, cycles, budget, o, hgrant, (attempts_frame_of_poll hpoll).trans hwithin,
    hburst, hbudget.trans hspent, hcounted⟩

/-- **A wait** is the last instruction of its frame and leaves no credit. -/
theorem credit_of_waits {elapsed now : α} {events : List HostEvent} {s : Processor} {k : Nat}
    (h : m.runFrame elapsed events now = (.ok true, n))
    (hs : (m.attempts (.operation (.frame elapsed events now)))[k]? = some s)
    (hwaits : s.step.1 = .ok .wait) :
    (m.attempts (.operation (.frame elapsed events now))).length = k + 1 ∧
      n.budget.credit = TimeNumber.zero := by
  obtain ⟨start, cycles, budget, o, -, hattempts, hburst, hbudget, -⟩ := exists_burst_of_runFrame h
  rw [hattempts] at hs ⊢
  obtain ⟨hlength, hends⟩ :=
    Processor.burst_of_getElem?_attempts hs (hwaits ▸ Processor.ends_wait)
  obtain rfl : Outcome.wait = o := Except.ok.inj (by rw [← hburst, hends, hwaits])
  refine ⟨hlength, ?_⟩
  rw [hbudget, if_pos rfl]
  rfl

/-- Frames that complete, the last of which meets a wait, leave no credit. -/
theorem credit_afterFrames_of_waits {earlier : List (Frame α)} {k : Nat} {s : Processor}
    (h : m.Completes (earlier ++ [f]))
    (hs : ((m.afterFrames earlier).attempts (.ofFrame f))[k]? = some s)
    (hwaits : s.step.1 = .ok .wait) :
    ((m.afterFrames earlier).attempts (.ofFrame f)).length = k + 1 ∧
      (m.afterFrames (earlier ++ [f])).budget.credit = TimeNumber.zero := by
  obtain ⟨-, hresult, -⟩ := completes_append.1 h
  have hafter : m.afterFrames (earlier ++ [f]) = (m.afterFrames earlier).act (.ofFrame f) := by
    unfold afterFrames
    rw [List.map_append]
    exact m.afterActions_concat _ _
  rw [hafter]
  exact credit_of_waits (Prod.ext hresult rfl) hs hwaits

end Frames

/-! ### Exact time -/

/-- What a part of a run does to the account of cycles, given the states in front of its
instructions and the time that it takes. -/
structure Paced (m n : Machine ℚ) (attempted : List Processor) (elapsed : ℚ) : Prop where
  speed : n.budget.speed = m.budget.speed
  nonneg : 0 ≤ n.budget.credit
  lt_one : m.budget.credit < 1 → n.budget.credit < 1
  /-- Each instruction is counted. -/
  counted : n.operations = m.operations + attempted.length
  /-- No more is spent than came in. -/
  spent_le : n.budget.credit + attempted.length ≤ m.budget.credit + elapsed * m.budget.speed
  /-- Without a wait nothing is lost. -/
  spent_eq : (∀ s ∈ attempted, s.step.1 ≠ .ok .wait) →
    n.budget.credit + attempted.length = m.budget.credit + elapsed * m.budget.speed

namespace Paced

variable {m k n : Machine ℚ} {attempted later : List Processor} {elapsed time : ℚ}

theorem refl (h : 0 ≤ m.budget.credit) : Paced m m [] 0 where
  speed := rfl
  nonneg := h
  lt_one := id
  counted := rfl
  spent_le := by simp
  spent_eq _ := by simp

/-- One part after another. The credit in between cancels. -/
theorem trans (h : Paced m k attempted elapsed) (h' : Paced k n later time) :
    Paced m n (attempted ++ later) (elapsed + time) where
  speed := h'.speed.trans h.speed
  nonneg := h'.nonneg
  lt_one hlt := h'.lt_one (h.lt_one hlt)
  counted := by rw [h'.counted, h.counted, List.length_append, Nat.add_assoc]
  spent_le := by
    have hfirst := h.spent_le
    have hlater := h'.spent_le
    rw [h.speed] at hlater
    rw [List.length_append, Nat.cast_add]
    linarith
  spent_eq hgoes := by
    have hfirst := h.spent_eq fun s hs ↦ hgoes s (List.mem_append_left later hs)
    have hlater := h'.spent_eq fun s hs ↦ hgoes s (List.mem_append_right attempted hs)
    rw [h.speed] at hlater
    rw [List.length_append, Nat.cast_add]
    linarith

/-- From a start without credit, the instructions are at most those that the time stands for. -/
theorem length_le (h : Paced m n attempted elapsed) (hcredit : m.budget.credit = 0) :
    (attempted.length : ℤ) ≤ ⌊m.budget.speed * elapsed⌋ := by
  have hspent := h.spent_le
  have hnonneg := h.nonneg
  rw [Int.le_floor, Int.cast_natCast]
  linarith

/-- From a start without credit and without a wait, they are the whole ones among those. -/
theorem length_eq (h : Paced m n attempted elapsed) (hcredit : m.budget.credit = 0)
    (hgoes : ∀ s ∈ attempted, s.step.1 ≠ .ok .wait) :
    (attempted.length : ℤ) = ⌊m.budget.speed * elapsed⌋ := by
  have hspent := h.spent_eq hgoes
  refine eq_floor_of_rest ?_ h.nonneg (h.lt_one (hcredit ▸ one_pos))
  rw [Int.cast_natCast, hspent, hcredit, zero_add, mul_comm]

end Paced

variable {m n : Machine ℚ} {f : Frame ℚ} {frames : List (Frame ℚ)}

/-- **A frame that completes**, over exact time. -/
theorem paced_of_runFrame (hspeed : 0 ≤ m.budget.speed) (hcredit : 0 ≤ m.budget.credit)
    (helapsed : 0 ≤ f.elapsed) (h : m.runFrame f.elapsed f.events f.now = (.ok true, n)) :
    Paced m n (m.attempts (.ofFrame f)) f.elapsed := by
  obtain ⟨start, cycles, budget, o, hgrant, hattempts, hburst, hbudget, hcounted⟩ :=
    exists_burst_of_runFrame h
  obtain ⟨granted, credit, hexact, hgranted, hnonneg, hlt, htotal⟩ :=
    CycleBudget.grant_settled hspeed hcredit helapsed
  rw [hexact] at hgrant
  obtain ⟨rfl, rfl⟩ : granted = cycles ∧ { m.budget with credit } = budget :=
    (Prod.mk.inj hgrant).imp_left Except.ok.inj
  change m.attempts (.ofFrame f) = _ at hattempts
  rw [hattempts]
  have hcycles : ((granted.toNat : ℕ) : ℚ) = granted := by
    exact_mod_cast Int.toNat_of_nonneg hgranted
  by_cases ho : o = .wait
  · -- The wait may leave cycles over, and the credit goes with them.
    have hzero : n.budget.credit = 0 := by
      rw [hbudget, if_pos ho]
      exact TimeNumber.zero_exact
    have hlength : ((start.attempts granted.toNat).length : ℚ) ≤ granted := by
      rw [← hcycles]
      exact_mod_cast start.length_attempts_le granted.toNat
    exact {
      speed := by rw [hbudget, if_pos ho]; rfl
      nonneg := hzero.ge
      lt_one := fun _ ↦ hzero ▸ one_pos
      counted := hcounted
      spent_le := by linarith
      spent_eq := fun hgoes ↦ by
        obtain ⟨s, hs, hwaits⟩ := Processor.burst_eq_wait_iff.1 (ho ▸ hburst)
        exact absurd hwaits (hgoes s hs) }
  · have hkept : n.budget.credit = credit := by rw [hbudget, if_neg ho]
    have hlength : ((start.attempts granted.toNat).length : ℚ) = granted := by
      rw [Processor.length_attempts_of_ok hburst ho, hcycles]
    have hspent : n.budget.credit + (start.attempts granted.toNat).length =
        m.budget.credit + f.elapsed * m.budget.speed := by rw [hkept, hlength, htotal]
    exact {
      speed := by rw [hbudget, if_neg ho]
      nonneg := hkept ▸ hnonneg
      lt_one := fun _ ↦ hkept ▸ hlt
      counted := hcounted
      spent_le := hspent.le
      spent_eq := fun _ ↦ hspent }

/-- **Frames that complete**, over exact time. -/
theorem paced_afterFrames (hspeed : 0 ≤ m.budget.speed) (hcredit : 0 ≤ m.budget.credit)
    (helapsed : ∀ f ∈ frames, 0 ≤ f.elapsed) (h : m.Completes frames) :
    Paced m (m.afterFrames frames) (m.framesAttempts frames) (frames.map Frame.elapsed).sum := by
  induction frames generalizing m with
  | nil => exact .refl hcredit
  | cons f rest ih =>
    obtain ⟨hresult, hcompletes⟩ := h
    have hfirst : Paced m (m.act (.ofFrame f)) (m.attempts (.ofFrame f)) f.elapsed :=
      paced_of_runFrame hspeed hcredit (helapsed f List.mem_cons_self) (Prod.ext hresult rfl)
    have hrest := ih (hfirst.speed ▸ hspeed) hfirst.nonneg
      (fun g hg ↦ helapsed g (List.mem_cons_of_mem f hg)) hcompletes
    rw [afterFrames_cons, framesAttempts_cons, List.map_cons, List.sum_cons]
    exact hfirst.trans hrest

/-- **Instructions follow the time.** A machine of any clock speed above zero that starts without
credit is run through frames that all complete, of any lengths. After each of them, and at the
start:

* the credit lies from zero up to one;
* the count of operations has grown by one for each instruction that was attempted;
* the instructions attempted in all are at most the floor of those that the whole time stands for;
* those since the last frame that met a wait for a key, or since the start if there was none, are
  exactly the floor of those that the time since then stands for;
* a frame that met a wait attempted nothing behind it and has left no credit. -/
theorem instructions_follow_time (hspeed : 0 < m.budget.speed) (hcredit : m.budget.credit = 0)
    (helapsed : ∀ f ∈ frames, 0 ≤ f.elapsed) (h : m.Completes frames) {done : List (Frame ℚ)}
    (hdone : done <+: frames) :
    (0 ≤ (m.afterFrames done).budget.credit ∧ (m.afterFrames done).budget.credit < 1) ∧
    (m.afterFrames done).operations = m.operations + (m.framesAttempts done).length ∧
    ((m.framesAttempts done).length : ℤ) ≤
      ⌊m.budget.speed * (done.map Frame.elapsed).sum⌋ ∧
    (∀ before since, done = before ++ since →
      (before = [] ∨ ∃ earlier f, before = earlier ++ [f] ∧ (m.afterFrames earlier).Waits f) →
      (∀ s ∈ (m.afterFrames before).framesAttempts since, s.step.1 ≠ .ok .wait) →
      (((m.afterFrames before).framesAttempts since).length : ℤ) =
        ⌊m.budget.speed * (since.map Frame.elapsed).sum⌋) ∧
    ∀ earlier f, done = earlier ++ [f] →
      ∀ (k : ℕ) (s : Processor), ((m.afterFrames earlier).attempts (.ofFrame f))[k]? = some s →
        s.step.1 = .ok .wait →
          ((m.afterFrames earlier).attempts (.ofFrame f)).length = k + 1 ∧
            (m.afterFrames done).budget.credit = 0 := by
  obtain ⟨coming, rfl⟩ := hdone
  obtain ⟨hcompletes, -⟩ := completes_append.1 h
  have hpaced := paced_afterFrames hspeed.le hcredit.ge
    (fun f hf ↦ helapsed f (List.mem_append_left coming hf)) hcompletes
  refine ⟨⟨hpaced.nonneg, hpaced.lt_one (hcredit ▸ one_pos)⟩, hpaced.counted,
    hpaced.length_le hcredit, ?_, ?_⟩
  · rintro before since rfl hbefore hgoes
    rw [List.append_assoc] at helapsed
    obtain ⟨hfirst, hsince⟩ := completes_append.1 hcompletes
    have hstart := paced_afterFrames hspeed.le hcredit.ge
      (fun f hf ↦ helapsed f (List.mem_append_left _ hf)) hfirst
    have hzero : (m.afterFrames before).budget.credit = 0 := by
      obtain rfl | ⟨earlier, f, rfl, s, hs, hwaits⟩ := hbefore
      · exact hcredit
      · obtain ⟨k, hk⟩ := List.mem_iff_getElem?.1 hs
        exact (credit_afterFrames_of_waits hfirst hk hwaits).2.trans TimeNumber.zero_exact
    have hafter := paced_afterFrames (hstart.speed ▸ hspeed.le) hstart.nonneg
      (fun f hf ↦ helapsed f (List.mem_append_right _ (List.mem_append_left _ hf))) hsince
    rw [← hstart.speed]
    exact hafter.length_eq hzero hgoes
  · rintro earlier f rfl k s hs hwaits
    obtain ⟨hlength, hzero⟩ := credit_afterFrames_of_waits hcompletes hs hwaits
    exact ⟨hlength, hzero.trans TimeNumber.zero_exact⟩

/-- A machine of ten instructions a second, with a program that waits for a key and then idles. -/
def waitingMachine : Machine ℚ :=
  let m := plugged (Renderer.fresh .headless 1 "") .script Audio.silent 10 .absent ⟨#[], 0⟩ true
  { m with core := Processor.bare #[0x60, 0x07, 0xF1, 0x0A, 0x10, 0x04] }

/-- A frame long enough to meet the wait with cycles to spare. -/
def longFrame : Frame ℚ := ⟨9 / 20, [], 0⟩

/-- Short frames, the first of which brings a key. -/
def keyFrames : List (Frame ℚ) :=
  [⟨3 / 25, [.press 3], 0⟩, ⟨1 / 25, [], 0⟩, ⟨1 / 10, [], 0⟩]

/-- The first frame waits, and the time since then stands for two instructions and a part of one.
The time of all frames together would stand for seven. -/
theorem instructions_follow_time_waiting :
    waitingMachine.Completes (longFrame :: keyFrames) ∧ waitingMachine.Waits longFrame ∧
      (waitingMachine.framesAttempts (longFrame :: keyFrames)).length = 4 ∧
      ((waitingMachine.framesAttempts (longFrame :: keyFrames)).length : ℤ) ≤
        ⌊10 * ((longFrame :: keyFrames).map Frame.elapsed).sum⌋ ∧
      (((waitingMachine.afterFrames [longFrame]).framesAttempts keyFrames).length : ℤ) =
        ⌊10 * (keyFrames.map Frame.elapsed).sum⌋ := by
  have hcompletes : waitingMachine.Completes (longFrame :: keyFrames) :=
    ⟨by decide +kernel, by decide +kernel, by decide +kernel, by decide +kernel, trivial⟩
  have hwaits : waitingMachine.Waits longFrame := by
    unfold Waits
    decide +kernel
  obtain ⟨-, -, htotal, hsince, -⟩ := instructions_follow_time (by decide +kernel)
    (by decide +kernel) (by decide +kernel) hcompletes (List.prefix_refl _)
  exact ⟨hcompletes, hwaits, by decide +kernel, htotal,
    hsince [longFrame] keyFrames rfl (.inr ⟨[], _, rfl, hwaits⟩) (by decide +kernel)⟩

end Machine

end ChipEight
