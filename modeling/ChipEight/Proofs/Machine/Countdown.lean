import ChipEight.Proofs.Machine.Ticking
import ChipEight.Proofs.Machine.Timekeeping

/-!
# The timers of a run

The ticks that the time of a run brings are ticks of the two timers. A frame that comes to its
timers leaves them as its instructions left them, counted down by the ticks of its elapsed time, and
nothing behind that touches a register (`registers_runFrame`). So does a round
(`Round.registers_after`), and a timer that no instruction of a run sets is counted down by the
ticks of the whole run, which are those of its whole time (`loop_keeps_time`).
-/

namespace ChipEight

variable {α σ : Type}

namespace Registers

/-- Timers that are not below zero count down to zero and no further. -/
theorem ticks_of_nonneg {r : Registers} (hdelay : 0 ≤ r.dt) (hsound : 0 ≤ r.st) (count : Nat) :
    r.ticks count = { r with dt := max 0 (r.dt - count), st := max 0 (r.st - count) } := by
  have htimer {timer : Int} (h : 0 ≤ timer) : timerAfter count timer = max 0 (timer - count) := by
    unfold timerAfter
    omega
  unfold ticks
  rw [htimer hdelay, htimer hsound]

end Registers

/-! ### Frames -/

namespace Machine

section Instructed

variable [TimeNumber α] (m : Machine α) (elapsed : α) (events : List HostEvent) (now : α)

/-- The machine in front of the timers of a frame: polled, and its instructions executed, as far as
the frame comes with both. -/
def instructed : Machine α :=
  match m.poll events now with
  | (.ok false, polled) => (polled.runInstructions elapsed).2
  | (.ok true, polled) | (.error _, polled) => polled

/-- The ticks of an elapsed time are those that the timers count down by. -/
theorem registers_runTimers :
    (m.runTimers elapsed).2.core.registers = m.core.registers.ticks (m.ticksWithin elapsed) := by
  unfold ticksWithin
  rcases hadvance : m.timers.advance elapsed with ⟨failure | count, clock⟩
  · rw [runTimers_of_error hadvance]
    exact (Registers.ticks_zero _).symm
  · rw [runTimers_of_ok hadvance]
    rfl

/-- **The registers after a frame** are those that its instructions left, counted down by the ticks
of the frame. -/
theorem registers_runFrame :
    (m.runFrame elapsed events now).2.core.registers =
      (m.instructed elapsed events now).core.registers.ticks
        (m.frameTicks elapsed events now) := by
  unfold instructed frameTicks
  rcases hpoll : m.poll events now with ⟨failure | quit, polled⟩
  · rw [runFrame_of_ne hpoll nofun, Registers.ticks_zero]
  cases quit
  case true => rw [runFrame_of_ne hpoll nofun, Registers.ticks_zero]
  rw [runFrame_of_poll hpoll]
  dsimp only
  rcases polled.runInstructions elapsed with ⟨failure | done, ran⟩
  · exact (Registers.ticks_zero _).symm
  · dsimp only
    rw [← ran.registers_runTimers elapsed]
    show (andThen (ran.runTimers elapsed) _).2.core.registers = _
    -- Behind the timers the display and the buzzer are left, and neither has registers.
    refine andThen_invariant (P := fun n ↦ n.core.registers = _) rfl fun _ ticked hticked ↦ ?_
    refine andThen_invariant (P := fun n ↦ n.core.registers = _) ?_ fun _ shown hshown ↦ ?_
    · obtain ⟨_, _, _, _, _, hrefresh⟩ := ticked.exists_refreshDisplay_fields
      rw [hrefresh, ← hticked]
    · obtain ⟨_, _, hbuzzer⟩ := shown.exists_setBuzzer (shown.core.registers.st > 0)
      rw [hbuzzer, ← hshown]
      rfl

variable {m} in
theorem Ready.instructed (h : m.Ready) : (m.instructed elapsed events now).Ready := by
  have hpolled : (m.poll events now).2.Ready := h.pass (.poll events now)
  unfold Machine.instructed
  rcases hpoll : m.poll events now with ⟨failure | quit, polled⟩
  · rw [hpoll] at hpolled
    exact hpolled
  · rw [hpoll] at hpolled
    cases quit
    case true => exact hpolled
    dsimp only
    rw [runInstructions_eq]
    exact hpolled.afterParts _

end Instructed

end Machine

/-! ### Rounds -/

namespace Round

variable [TimeNumber α] (clock : Clock σ α) (r : Round σ α)

/-- The machine in front of the timers of the round's frame. -/
def instructed : Machine α :=
  match r.frame? with
  | none => (r.loop.machine.reportDue r.time).2
  | some (reported, elapsed) => reported.instructed elapsed r.loop.events (r.now clock)

/-- **The registers after a round** are those that its instructions left, counted down by its
ticks. -/
theorem registers_after :
    (r.after clock).core.registers =
      (r.instructed clock).core.registers.ticks (r.ticks clock) := by
  obtain ⟨_, hafter, -⟩ := exists_after clock r
  unfold instructed ticks
  rw [hafter]
  dsimp only
  rcases hframe : r.frame? with - | ⟨reported, elapsed⟩
  · obtain ⟨-, hnone⟩ := ran_of_none clock hframe
    rw [hnone]
    exact (Registers.ticks_zero _).symm
  · obtain ⟨-, -, hframed⟩ := ran_of_some clock hframe
    rw [hframed]
    exact reported.registers_runFrame elapsed r.loop.events (r.now clock)

variable {r}

theorem ready_instructed (h : r.loop.machine.Ready) : (r.instructed clock).Ready := by
  obtain ⟨_, -, hready, -⟩ := Machine.tally_reportDue h r.time
  unfold instructed
  rcases hframe : r.frame? with - | ⟨reported, elapsed⟩
  · exact hready
  · obtain ⟨hreport, -, -⟩ := ran_of_some clock hframe
    rw [hreport] at hready
    exact hready.instructed elapsed r.loop.events (r.now clock)

/-- Both timers of a machine that is ready count down to zero and no further. -/
theorem registers_after_of_ready (h : r.loop.machine.Ready) :
    (r.after clock).core.registers = { (r.instructed clock).core.registers with
      dt := max 0 ((r.instructed clock).core.registers.dt - r.ticks clock)
      st := max 0 ((r.instructed clock).core.registers.st - r.ticks clock) } := by
  obtain ⟨_, _, _, hrunning⟩ := (ready_instructed clock h).running
  rw [registers_after]
  exact Registers.ticks_of_nonneg hrunning.sound.delay.1 hrunning.sound.sound.1 _

end Round

/-! ### Runs -/

namespace Loop

variable [TimeNumber α] (clock : Clock σ α) (count : Nat) (l : Loop σ α)

/-- What every round of a run keeps of the rounds in front of it. -/
theorem forall_rounds {P : Round σ α → Prop} (hP : ∀ r : Round σ α, r.loop.machine.Ready → P r)
    (h : l.machine.Ready) : ∀ r ∈ l.rounds clock count, P r := by
  refine ready_induction clock (motive := fun _ _ rounds _ ↦ ∀ r ∈ rounds, P r) ?_ ?_ ?_ count l h
  · exact fun _ _ _ _ hr ↦ (List.not_mem_nil hr).elim
  · exact fun r hr ↦ List.forall_mem_singleton.2 (hP r hr)
  · exact fun r _ _ hr _ hrest ↦ List.forall_mem_cons.2 ⟨hP r hr, hrest⟩

/-- **A timer that the instructions of a run leave alone** is counted down by all its ticks. -/
theorem timer_run {timer : Registers → Int}
    (htimer : ∀ r count, timer (r.ticks count) = Registers.timerAfter count (timer r))
    (h : l.machine.Ready)
    (halone : ∀ r ∈ l.rounds clock count,
      timer (r.instructed clock).core.registers = timer r.loop.machine.core.registers) :
    timer (l.run clock count).2.machine.core.registers =
      Registers.timerAfter ((l.rounds clock count).map (Round.ticks clock)).sum
        (timer l.machine.core.registers) := by
  have hround (r : Round σ α)
      (hr : timer (r.instructed clock).core.registers = timer r.loop.machine.core.registers) :
      timer (r.after clock).core.registers =
        Registers.timerAfter (r.ticks clock) (timer r.loop.machine.core.registers) := by
    rw [Round.registers_after, htimer, hr]
  refine ready_induction clock (motive := fun m _ rounds n ↦
    (∀ r ∈ rounds, timer (r.instructed clock).core.registers =
      timer r.loop.machine.core.registers) →
    timer n.core.registers =
      Registers.timerAfter (rounds.map (Round.ticks clock)).sum (timer m.core.registers))
    ?_ ?_ ?_ count l h halone
  · exact fun m _ _ _ ↦ (Registers.timerAfter_zero _).symm
  · intro r _ hr
    rw [List.map_singleton, List.sum_singleton]
    exact hround r (hr r List.mem_cons_self)
  · intro r rest n _ _ hrest hall
    obtain ⟨hr, hlater⟩ := List.forall_mem_cons.1 hall
    rw [List.map_cons, List.sum_cons, Registers.timerAfter_add, ← hround r hr]
    exact hrest hlater

end Loop

namespace Machine

/-- **The loop keeps time.** A run of the host loop over exact time, on a machine that was created
and then used in any way. The elapsed times of the frames that complete, one for each, add up to the
time from the first reading of the run to the head of the last round that completed. At most one
pause follows each of these frames, and none a frame that does not complete, after which the run is
over; a pause is longer than nothing. After each round the two timers are what its instructions left
of them, counted down by the ticks of the round to zero and no further, and the other registers are
what its instructions left.

And if the clock does not run backwards, no pause is longer than a round; and if less than a tick
was pending at the start, then the ticks of all rounds are the whole ones of what was pending and of
all the time, so a timer that the instructions leave alone is counted down by as many in the run. -/
theorem loop_keeps_time {renderer : Renderer} {inputs : Inputs ℚ} {audio : Audio}
    {speed : Setting ℚ} {debugger : Debugger} {seed : Setting Int} {keypadShared : Bool}
    {made : Machine ℚ}
    (h : create renderer inputs audio speed debugger seed keypadShared = .ok made)
    (actions : List (Action ℚ)) (clock : Clock σ ℚ) {state : σ} {polls : List (List HostEvent)}
    {l : Loop σ ℚ} (hstart : Loop.start clock (made.afterActions actions) state polls = .ok l)
    (count : Nat) :
    let m := made.afterActions actions
    let n := (l.run clock count).2.machine
    let rounds := l.rounds clock count
    let completed := rounds.filter (Round.completes clock)
    let times := rounds.flatMap (Round.times clock)
    ∃ first opened, clock.read state = .ok (first, opened) ∧
      n.journal.frames = m.journal.frames ++ times ∧
      times.length = completed.length ∧
      times.sum = (completed.map Round.time).getLastD first - first ∧
      n.journal.pauses = m.journal.pauses ++ rounds.flatMap (Round.pauses clock) ∧
      (∀ r ∈ rounds, (r.pauses clock).length ≤ 1 ∧
        (r.completes clock = false → r.pauses clock = []) ∧ ∀ left ∈ r.pauses clock, 0 < left) ∧
      (∀ r ∈ rounds, (r.after clock).core.registers = { (r.instructed clock).core.registers with
        dt := max 0 ((r.instructed clock).core.registers.dt - r.ticks clock)
        st := max 0 ((r.instructed clock).core.registers.st - r.ticks clock) }) ∧
      ((first :: rounds.flatMap (Round.readings clock)).Pairwise (· ≤ ·) →
        (∀ r ∈ rounds, ∀ left ∈ r.pauses clock, left ≤ 1 / 60) ∧
        (0 ≤ m.timers.pending → m.timers.pending < 1 / 60 →
          ((rounds.map (Round.ticks clock)).sum : ℤ) =
            ⌊60 * (m.timers.pending + times.sum)⌋ ∧
          ∀ timer ∈ [Registers.dt, Registers.st],
            (∀ r ∈ rounds, timer (r.instructed clock).core.registers =
              timer r.loop.machine.core.registers) →
            timer n.core.registers =
              max 0 (timer m.core.registers - ⌊60 * (m.timers.pending + times.sum)⌋))) := by
  intro m n rounds completed times
  have hready : m.Ready := (ready_create h).afterActions actions
  obtain ⟨first, opened, hread, rfl⟩ := Loop.exists_start hstart
  obtain ⟨counts, htimed, -⟩ := Loop.timed_run clock count ⟨m, opened, first, polls⟩ hready
  obtain ⟨hlength, hsum⟩ := Loop.sum_times clock count ⟨m, opened, first, polls⟩ hready
  obtain ⟨hpauses, honce⟩ := Loop.pauses_run clock count ⟨m, opened, first, polls⟩ hready
  refine ⟨first, opened, hread, htimed.frames, hlength, hsum, hpauses,
    fun r hr ↦ (honce r hr).bounds,
    Loop.forall_rounds clock count _ (fun r ↦ Round.registers_after_of_ready clock) hready,
    fun hreadings ↦ ?_⟩
  obtain ⟨hnonneg, hclosings⟩ :=
    Loop.nonneg_of_readings clock count ⟨m, opened, first, polls⟩ hready hreadings
  refine ⟨fun r hr ↦ (honce r hr).le (hclosings r hr), fun hpending hlt ↦ ?_⟩
  have hticks : ((rounds.map (Round.ticks clock)).sum : ℤ) =
      ⌊60 * (m.timers.pending + times.sum)⌋ :=
    Loop.sum_ticks clock count ⟨m, opened, first, polls⟩ hready hpending hlt hnonneg
  obtain ⟨_, _, _, hrunning⟩ := hready.running
  refine ⟨hticks, fun timer htimer halone ↦ ?_⟩
  obtain ⟨hcounts, hstart⟩ : (∀ r count, timer (Registers.ticks r count) =
      Registers.timerAfter count (timer r)) ∧ 0 ≤ timer m.core.registers := by
    simp only [List.mem_cons, List.not_mem_nil, or_false] at htimer
    rcases htimer with rfl | rfl
    · exact ⟨fun _ _ ↦ rfl, hrunning.sound.delay.1⟩
    · exact ⟨fun _ _ ↦ rfl, hrunning.sound.sound.1⟩
  have htimed : timer n.core.registers = _ :=
    Loop.timer_run clock count ⟨m, opened, first, polls⟩ hcounts hready halone
  rw [htimed, ← hticks]
  exact timerAfter_of_nonneg (Int.natCast_nonneg _) hstart

/-- The delay timer is set to five, in a program that then jumps to its last word again and
again. -/
def turning : List (Action ℚ) :=
  [.operation (.load [0x60, 0x05, 0xF0, 0x15, 0x12, 0x04]), .operation .step, .operation .step]

/-- The host has nothing to say to two polls, and then asks to quit. -/
def twoPolls : List (List HostEvent) :=
  [[], []]

/-- A clock that moves by `1 / 200` at each reading: the frames are given `1 / 200` and, after the
first pause, `13 / 600`. That is one tick and more, and a frame and more. -/
theorem loop_keeps_time_turning :
    ∃ (made : Machine ℚ) (l : Loop (Metronome ℚ) ℚ),
      create (Renderer.fresh .headless 1 "") .script Audio.silent (.given 60) .absent (.given 1)
        true = .ok made ∧
      Loop.start Metronome.clock (made.afterActions turning) ⟨0, 1 / 200⟩ twoPolls = .ok l ∧
      let rounds := l.rounds Metronome.clock 5
      let n := (l.run Metronome.clock 5).2.machine
      rounds.flatMap (Round.times Metronome.clock) = [1 / 200, 13 / 600] ∧
        rounds.flatMap (Round.pauses Metronome.clock) = [7 / 600, 7 / 600] ∧
        ((rounds.map (Round.ticks Metronome.clock)).sum : ℤ) = ⌊60 * (0 + (2 / 75 : ℚ))⌋ ∧
        n.core.registers.dt = max 0 (5 - ⌊60 * (0 + (2 / 75 : ℚ))⌋) := by
  obtain ⟨made, hmade, -⟩ := exists_create_headless (α := ℚ) .script Audio.silent 60
    (by decide +kernel) .absent 1 true
  have hrun : (match create (α := ℚ) (Renderer.fresh .headless 1 "") .script Audio.silent
      (.given 60) .absent (.given 1) true with
    | .ok made =>
      let m := made.afterActions turning
      let rounds := Loop.rounds Metronome.clock 5 ⟨m, ⟨0 + 1 / 200, 1 / 200⟩, 0, twoPolls⟩
      ((m.timers.pending, m.core.registers.dt), rounds.flatMap (Round.times Metronome.clock),
        rounds.flatMap (Round.pauses Metronome.clock),
        rounds.flatMap (Round.readings Metronome.clock),
        rounds.map fun r ↦ decide ((r.instructed Metronome.clock).core.registers.dt =
          r.loop.machine.core.registers.dt))
    | .error _ => ((1, 0), [], [], [], [])) =
      ((0, 5), [1 / 200, 13 / 600], [7 / 600, 7 / 600],
        [1 / 200, 1 / 100, 2 / 75, 19 / 600, 29 / 600], [true, true, true]) := by
    decide +kernel
  rw [hmade] at hrun
  obtain ⟨hstarted, hrest⟩ := Prod.mk.inj hrun
  obtain ⟨hpending, hdelay⟩ := Prod.mk.inj hstarted
  obtain ⟨htimes, hrest⟩ := Prod.mk.inj hrest
  obtain ⟨hpauses, hrest⟩ := Prod.mk.inj hrest
  obtain ⟨hreadings, halone⟩ := Prod.mk.inj hrest
  have hstart : Loop.start Metronome.clock (made.afterActions turning) ⟨0, 1 / 200⟩ twoPolls =
      .ok ⟨made.afterActions turning, ⟨0 + 1 / 200, 1 / 200⟩, 0, twoPolls⟩ := rfl
  obtain ⟨first, opened, hread, -, -, -, -, -, -, hforward⟩ :=
    loop_keeps_time hmade turning Metronome.clock hstart 5
  obtain rfl : (0 : ℚ) = first := congrArg Prod.fst (Except.ok.inj hread)
  rw [hreadings, hpending, htimes] at hforward
  obtain ⟨-, hrun⟩ := hforward (by decide +kernel)
  have hsum : [1 / 200, (13 / 600 : ℚ)].sum = 2 / 75 := by norm_num
  rw [hsum] at hrun
  obtain ⟨hticks, htimers⟩ := hrun le_rfl (by norm_num)
  have hcounted := htimers Registers.dt List.mem_cons_self fun r hr ↦ by
    have hmem : decide _ ∈ [true, true, true] := halone ▸ List.mem_map_of_mem hr
    simp only [List.mem_cons, List.not_mem_nil, or_false, or_self, decide_eq_true_eq] at hmem
    exact hmem
  rw [hdelay] at hcounted
  exact ⟨made, _, hmade, hstart, htimes, hpauses, hticks, hcounted⟩

end Machine

end ChipEight
