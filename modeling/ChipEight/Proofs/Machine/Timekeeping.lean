import ChipEight.Proofs.Machine.Tally
import ChipEight.Proofs.Pacing.Accounts

/-!
# The time of a run

A round hands its frame the time from the head of the round before to its own head. The second
reading of a round, taken behind the frame, only decides how long the pause is, so the elapsed times
of the frames that complete telescope: whatever frames and pauses take, they add up to the time from
the start of the run to the head of the last round that completed (`Loop.sum_times`).

`Timed` says that a stretch of a run gave the clock of the timers the elapsed times of the frames
that it completed, and no others: a frame that does not complete leaves the clock alone, since over
exact time nothing behind the timers can fail. So the ticks of a run are those of its whole time
(`Loop.sum_ticks`).
-/

namespace ChipEight

variable {α σ : Type}

namespace Machine

variable [TimeNumber α] {m n k : Machine α}

/-! ### Ticks of a frame -/

/-- The ticks that an elapsed time brings to the timers. -/
def ticksWithin (m : Machine α) (elapsed : α) : Nat :=
  match m.timers.advance elapsed with
  | (.ok count, _) => count.toNat
  | (.error _, _) => 0

/-- The ticks that a frame applies to the timers: those of its elapsed time, if it comes to them. -/
def frameTicks (m : Machine α) (elapsed : α) (events : List HostEvent) (now : α) : Nat :=
  match m.poll events now with
  | (.ok false, polled) =>
    match polled.runInstructions elapsed with
    | (.ok (), ran) => ran.ticksWithin elapsed
    | (.error _, _) => 0
  | (.ok true, _) | (.error _, _) => 0

/-! ### Stretches of a run -/

/-- What a stretch of a run did to the clock of the timers, given the elapsed times of the frames
that it completed and the counts of ticks that the clock answered. -/
structure Timed (m n : Machine α) (times : List α) (counts : List Int) : Prop where
  /-- The elapsed times of the frames completed. -/
  frames : n.journal.frames = m.journal.frames ++ times
  /-- The clock was given these times, and no others. -/
  clock : n.timers = m.timers.afterTimes times
  /-- What the clock answered to them. -/
  counts : m.timers.counts times = counts.map .ok

namespace Timed

variable {times later : List α} {counts more : List Int}

theorem of_eq (hframes : n.journal.frames = m.journal.frames) (htimers : n.timers = m.timers) :
    Timed m n [] [] :=
  ⟨hframes.trans (List.append_nil _).symm, htimers, rfl⟩

theorem refl (m : Machine α) : Timed m m [] [] :=
  .of_eq rfl rfl

/-- One stretch after another. -/
theorem trans (h : Timed m k times counts) (h' : Timed k n later more) :
    Timed m n (times ++ later) (counts ++ more) where
  frames := by rw [h'.frames, h.frames, List.append_assoc]
  clock := by rw [h'.clock, h.clock, TickClock.afterTimes_append]
  counts := by rw [TickClock.counts_append, h.counts, ← h.clock, h'.counts, List.map_append]

end Timed

/-! ### Parts of a frame -/

/-- The part has nothing to do with the time of the timers or of a frame. -/
def Part.LeavesTime : Part α → Prop
  | .ticks _ | .finish _ | .reset => False
  | .poll _ _ | .grant _ | .attempt | .refresh | .step | .load _ => True

theorem timed_pass (part : Part α) (h : part.LeavesTime) : Timed m (m.pass part) [] [] := by
  refine .of_eq ((m.journal_pass part).frames_eq fun elapsed hwrites ↦ ?_) ?_
  · cases part
    all_goals simp [Part.Writes, Part.LeavesTime, Entry.IsText] at hwrites h
  · cases part with
    | poll events now => rfl
    | grant elapsed => rfl
    | attempt =>
      obtain ⟨_, hattempt⟩ := m.exists_attempt
      show m.attempt.timers = _
      rw [hattempt]
    | ticks elapsed => exact h.elim
    | refresh =>
      obtain ⟨_, _, _, _, _, hrefresh⟩ := m.exists_refreshDisplay_fields
      exact congrArg (fun done ↦ done.2.timers) hrefresh
    | finish elapsed => exact h.elim
    | step =>
      obtain ⟨_, hstep⟩ := m.exists_step
      exact congrArg (fun done ↦ done.2.timers) hstep
    | reset => exact h.elim
    | load program =>
      obtain ⟨_, _, _, _, -, hload⟩ := m.exists_load_fields program
      exact congrArg (fun done ↦ done.2.timers) hload

theorem timed_afterParts {parts : List (Part α)} (h : ∀ part ∈ parts, part.LeavesTime) :
    Timed m (m.afterParts parts) [] [] := by
  induction parts generalizing m with
  | nil => exact .refl m
  | cons part rest ih =>
    obtain ⟨hpart, hrest⟩ := List.forall_mem_cons.1 h
    exact (timed_pass part hpart).trans (ih hrest)

/-- The instructions of a frame leave the clock of the timers alone. -/
theorem timed_runInstructions (m : Machine α) (elapsed : α) :
    Timed m (m.runInstructions elapsed).2 [] [] := by
  rw [runInstructions_eq]
  refine timed_afterParts (List.forall_mem_cons.2 ⟨trivial, fun part hpart ↦ ?_⟩)
  rw [List.eq_of_mem_replicate hpart]
  trivial

omit [TimeNumber α] in
/-- The end of a frame records its elapsed time. -/
theorem frames_finish (m : Machine α) (elapsed : α) :
    (m.finish elapsed).journal.frames = m.journal.frames ++ [elapsed] ∧
      (m.finish elapsed).timers = m.timers := by
  obtain ⟨_, _, hbuzzer⟩ := m.exists_setBuzzer (m.core.registers.st > 0)
  have hframes : (m.setBuzzer (m.core.registers.st > 0)).journal.frames = m.journal.frames :=
    (m.journal_setBuzzer _).frames_eq fun elapsed hentry ↦ by simp at hentry
  constructor
  · show Journal.frames (Array.push _ _) = _
    rw [Journal.frames_push, hframes]
    rfl
  · show (m.setBuzzer (m.core.registers.st > 0)).timers = _
    rw [hbuzzer]

/-- What a report does to the frames and the pauses recorded, and to the clock of the timers. -/
theorem views_of_reportDue (h : m.renderer.TakesTitles) (time : α) :
    (m.reportDue time).2.journal.frames = m.journal.frames ∧
      (m.reportDue time).2.journal.pauses = m.journal.pauses ∧
      (m.reportDue time).2.timers = m.timers := by
  obtain ⟨result, hdue⟩ | ⟨_, calls, -, -, hdue⟩ := reportDue_cases h time
  · rw [hdue]
    exact ⟨rfl, rfl, rfl⟩
  · have hadds : Journal.Adds (fun entry ↦ (∃ text, entry = .title text) ∨ ∃ c, entry = .call c)
        m.journal (m.journal.push (.title (reportTitle m.framesShown m.operations)) ++
          Journal.ofCalls calls) :=
      (Journal.Adds.push (.inl ⟨_, rfl⟩)).trans (.calls fun c _ ↦ .inr ⟨c, rfl⟩)
    rw [hdue]
    exact ⟨hadds.frames_eq fun elapsed hentry ↦ by simp at hentry,
      hadds.pauses_eq fun left hentry ↦ by simp at hentry, rfl⟩

end Machine

/-! ### Frames -/

namespace Machine

variable {m n : Machine ℚ}

theorem Ready.rate (h : m.Ready) : m.timers.rate = 60 := by
  obtain ⟨_, _, _, hrunning⟩ := h.running
  exact hrunning.rate

/-- **Behind its instructions** a frame completes, over exact time: the clock of the timers answers,
and the display is shown. -/
theorem timed_completed (h : m.Ready) (elapsed : ℚ) :
    ∃ count n, (andThen (m.runTimers elapsed) fun _ m ↦ andThen m.refreshDisplay fun _ m ↦
        (.ok true, (m.setBuzzer (m.core.registers.st > 0)).record (.frame elapsed))) = (.ok true, n) ∧
      Timed m n [elapsed] [count] ∧ m.ticksWithin elapsed = count.toNat := by
  have hrate : m.timers.rate ≠ 0 := by
    rw [h.rate]
    norm_num
  obtain ⟨count, clock, hadvance⟩ := TickClock.exists_advance hrate elapsed
  have hready : (m.runTimers elapsed).2.Ready := h.pass (.ticks elapsed)
  obtain ⟨ticked, hticked⟩ : ∃ ticked, m.runTimers elapsed = (.ok (), ticked) :=
    ⟨_, runTimers_of_ok hadvance⟩
  have hsame := runTimers_of_ok hadvance
  rw [hticked] at hready hsame ⊢
  obtain ⟨_, _, _, -, hrefresh⟩ := exists_refreshDisplay hready.fits
  have hshown : Timed ticked ticked.refreshDisplay.2 [] [] := timed_pass .refresh trivial
  obtain ⟨hframes, htimers⟩ := ticked.refreshDisplay.2.frames_finish elapsed
  refine ⟨count, ticked.refreshDisplay.2.finish elapsed, ?_, ⟨?_, ?_, ?_⟩, ?_⟩
  · show andThen ticked.refreshDisplay _ = _
    rw [hrefresh]
    rfl
  · rw [hframes, hshown.frames, List.append_nil, (Prod.mk.inj hsame).2]
  · rw [htimers, hshown.clock, (Prod.mk.inj hsame).2]
    exact (congrArg Prod.snd hadvance).symm
  · exact congrArg (fun done ↦ [done.1]) hadvance
  · unfold ticksWithin
    rw [hadvance]

/-- **A frame** that completes has given its elapsed time to the clock of the timers, and applied
the ticks that the clock answered. A frame that does not complete has not come to its timers. -/
theorem timed_runFrame (h : m.Ready) (elapsed : ℚ) (events : List HostEvent) (now : ℚ) :
    ∃ times counts, Timed m (m.runFrame elapsed events now).2 times counts ∧
      m.frameTicks elapsed events now = (counts.map Int.toNat).sum ∧
      ((m.runFrame elapsed events now).1 = .ok true ∧ times = [elapsed] ∨
        (m.runFrame elapsed events now).1 ≠ .ok true ∧ times = []) := by
  have hpolled : Timed m (m.poll events now).2 [] [] := timed_pass (.poll events now) trivial
  have hready : (m.poll events now).2.Ready := h.pass (.poll events now)
  unfold frameTicks
  rcases hpoll : m.poll events now with ⟨failure | quit, polled⟩
  · rw [runFrame_eq, hpoll]
    rw [hpoll] at hpolled
    exact ⟨[], [], hpolled, rfl, .inr ⟨nofun, rfl⟩⟩
  rw [hpoll] at hpolled hready
  cases quit
  case true =>
    rw [runFrame_eq, hpoll]
    exact ⟨[], [], hpolled, rfl, .inr ⟨nofun, rfl⟩⟩
  have hran := hpolled.trans (polled.timed_runInstructions elapsed)
  have hranReady : (polled.runInstructions elapsed).2.Ready := by
    rw [runInstructions_eq]
    exact hready.afterParts _
  rw [runFrame_of_poll hpoll]
  dsimp only
  rcases hrun : polled.runInstructions elapsed with ⟨failure | done, ran⟩
  · rw [hrun] at hran
    exact ⟨[], [], hran, rfl, .inr ⟨nofun, rfl⟩⟩
  rw [hrun] at hran hranReady
  dsimp only at hran hranReady ⊢
  obtain ⟨count, n, hcompleted, htimed, hticks⟩ := timed_completed hranReady elapsed
  refine ⟨[elapsed], [count], ?_, ?_, .inl ⟨congrArg Prod.fst hcompleted, rfl⟩⟩
  · show Timed m (andThen (ran.runTimers elapsed) _).2 _ _
    rw [hcompleted]
    exact hran.trans htimed
  · rw [hticks, List.map_singleton, List.sum_singleton]

/-- A report leaves the clock of the timers alone. -/
theorem timed_reportDue (h : m.Ready) (time : ℚ) : Timed m (m.reportDue time).2 [] [] := by
  obtain ⟨hframes, -, htimers⟩ := views_of_reportDue h.titles time
  exact .of_eq hframes htimers

end Machine

/-! ### Rounds -/

namespace Round

section Views

variable [TimeNumber α] (clock : Clock σ α) (r : Round σ α)

/-- The ticks that the frame of the round applies to the timers. -/
def ticks : Nat :=
  match r.frame? with
  | none => 0
  | some (reported, elapsed) => reported.frameTicks elapsed r.loop.events (r.now clock)

/-- The elapsed times of the frames that the round completes, of which there is at most one. -/
def times : List α :=
  (r.after clock).journal.frames.drop r.loop.machine.journal.frames.length

/-- The pauses of the round. -/
def pauses : List α :=
  (r.after clock).journal.pauses.drop r.loop.machine.journal.pauses.length

/-- The round pauses at most once, behind a frame that completes, for what its second reading leaves
of it. -/
def PausesOnce : Prop :=
  r.pauses clock = [] ∨
    ∃ closing left, r.completes clock = true ∧ r.closing? clock = some closing ∧
      Machine.timeLeft? r.time closing = .ok (some left) ∧ r.pauses clock = [left]

end Views

/-- The frame of a round is handed the time between two heads. -/
theorem timed_ran (clock : Clock σ ℚ) {r : Round σ ℚ} (h : r.loop.machine.Ready) :
    ∃ times counts, Machine.Timed r.loop.machine (r.ran clock).2 times counts ∧
      r.ticks clock = (counts.map Int.toNat).sum ∧
      ((r.ran clock).1 = .ok true ∧ times = [r.time - r.loop.last] ∨
        (r.ran clock).1 ≠ .ok true ∧ times = []) := by
  have hreported := Machine.timed_reportDue h r.time
  unfold ticks
  rcases hframe : r.frame? with - | ⟨reported, elapsed⟩
  · obtain ⟨⟨failure, hfailure⟩, hnone⟩ := ran_of_none clock hframe
    rw [hnone, hfailure]
    exact ⟨[], [], hreported, rfl, .inr ⟨nofun, rfl⟩⟩
  · obtain ⟨_, -, hready, -⟩ := Machine.tally_reportDue h r.time
    obtain ⟨hreport, hsub, hframed⟩ := ran_of_some clock hframe
    obtain rfl : r.time - r.loop.last = elapsed := Except.ok.inj hsub
    rw [hreport] at hreported hready
    rw [hframed]
    obtain ⟨times, counts, htimed, hticks, hcases⟩ := Machine.timed_runFrame hready
      (r.time - r.loop.last) r.loop.events (r.now clock)
    exact ⟨times, counts, hreported.trans htimed, hticks, hcases⟩

/-- **A round** that completes its frame has given the clock of the timers the time between two
heads; one that does not, nothing. -/
theorem timed (clock : Clock σ ℚ) {r : Round σ ℚ} (h : r.loop.machine.Ready) :
    ∃ counts, Machine.Timed r.loop.machine (r.after clock) (r.times clock) counts ∧
      r.ticks clock = (counts.map Int.toNat).sum ∧
      (r.completes clock = true ∧ r.times clock = [r.time - r.loop.last] ∨
        r.completes clock = false ∧ r.times clock = []) := by
  obtain ⟨times, counts, htimed, hticks, hcases⟩ := timed_ran clock h
  obtain ⟨journal, hafter, hadds⟩ := exists_after clock r
  have hend : Machine.Timed (r.ran clock).2 (r.after clock) [] [] := by
    rw [hafter]
    exact .of_eq (hadds.frames_eq fun elapsed hentry ↦ by simp at hentry) rfl
  have htotal := htimed.trans hend
  rw [List.append_nil, List.append_nil] at htotal
  have htimes : r.times clock = times := by
    unfold Round.times
    rw [htotal.frames, List.drop_left]
  rw [htimes]
  refine ⟨counts, htotal, hticks, ?_⟩
  rw [← Bool.not_eq_true, completes_iff]
  exact hcases

/-- No part of an operation pauses, so a round pauses behind its frame only. -/
theorem pauses_ran [TimeNumber α] (clock : Clock σ α) {r : Round σ α}
    (h : r.loop.machine.Ready) :
    (r.ran clock).2.journal.pauses = r.loop.machine.journal.pauses := by
  obtain ⟨-, hreported, -⟩ := Machine.views_of_reportDue h.titles r.time
  rcases hframe : r.frame? with - | ⟨reported, elapsed⟩
  · obtain ⟨-, hnone⟩ := ran_of_none clock hframe
    rw [hnone, hreported]
  · obtain ⟨hreport, -, hframed⟩ := ran_of_some clock hframe
    rw [hreport] at hreported
    rw [hframed, ← hreported]
    show (reported.operate (.frame elapsed r.loop.events (r.now clock))).journal.pauses = _
    rw [Machine.operate_eq]
    refine Machine.afterParts_invariant
      (P := fun n ↦ n.journal.pauses = reported.journal.pauses) (fun n part hn ↦ ?_) rfl _
    refine ((n.journal_pass part).pauses_eq fun left hwrites ↦ ?_).trans hn
    cases part
    all_goals simp [Machine.Part.Writes, Entry.IsText] at hwrites

/-- **A round pauses** at most once, and nothing else in it pauses. -/
theorem pausesOnce [TimeNumber α] (clock : Clock σ α) {r : Round σ α}
    (h : r.loop.machine.Ready) :
    (r.after clock).journal.pauses = r.loop.machine.journal.pauses ++ r.pauses clock ∧
      r.PausesOnce clock := by
  obtain ⟨added, hadded, hcases⟩ : ∃ added,
      (r.after clock).journal.pauses = r.loop.machine.journal.pauses ++ added ∧
        (added = [] ∨ ∃ closing left, r.completes clock = true ∧ r.closing? clock = some closing ∧
          Machine.timeLeft? r.time closing = .ok (some left) ∧ added = [left]) := by
    rw [← pauses_ran clock h]
    obtain hafter | ⟨-, hafter⟩ | ⟨closing, left, hcompletes, hclosing, hleft, hafter⟩ :=
      after_cases clock r
    · exact ⟨[], by rw [hafter, List.append_nil], .inl rfl⟩
    · rw [hafter]
      exact ⟨[], Journal.pauses_push _ _, .inl rfl⟩
    · rw [hafter]
      exact ⟨[left], Journal.pauses_push _ _,
        .inr ⟨closing, left, hcompletes, hclosing, hleft, rfl⟩⟩
  have hpauses : r.pauses clock = added := by
    unfold pauses
    rw [hadded, List.drop_left]
  unfold PausesOnce
  rw [hpauses]
  exact ⟨hadded, hcases⟩

/-- What is left of a round, exactly. -/
theorem timeLeft?_exact {start time left : ℚ}
    (h : Machine.timeLeft? start time = .ok (some left)) :
    0 < left ∧ left = start + 1 / 60 - time := by
  unfold Machine.timeLeft? Machine.frameTime at h
  dsimp only [bind, Except.bind, TimeNumber.add, TimeNumber.sub, TimeNumber.ratio, TimeNumber.lt,
    TimeNumber.ofInt, pure, Except.pure] at h
  split at h
  · rename_i hpos
    have hleft := Option.some.inj (Except.ok.inj h)
    rw [Rat.mkRat_eq_div, Int.cast_one, Nat.cast_ofNat] at hpos hleft
    rw [hleft, Int.cast_zero, decide_eq_true_iff] at hpos
    exact ⟨hpos, hleft.symm⟩
  · cases Except.ok.inj h

namespace PausesOnce

variable {clock : Clock σ ℚ} {r : Round σ ℚ}

/-- A pause is longer than nothing, and there is none behind a frame that does not complete. -/
theorem bounds (h : r.PausesOnce clock) :
    (r.pauses clock).length ≤ 1 ∧ (r.completes clock = false → r.pauses clock = []) ∧
      ∀ left ∈ r.pauses clock, 0 < left := by
  obtain hnone | ⟨closing, left, hcompletes, -, hleft, hone⟩ := h
  · rw [hnone]
    exact ⟨Nat.zero_le 1, fun _ ↦ rfl, fun _ hmem ↦ (List.not_mem_nil hmem).elim⟩
  · rw [hone, hcompletes]
    exact ⟨le_rfl, nofun, List.forall_mem_singleton.2 (timeLeft?_exact hleft).1⟩

/-- A pause is no longer than a round whose second reading does not lie before its head. -/
theorem le (h : r.PausesOnce clock)
    (hclosing : ∀ closing, r.closing? clock = some closing → r.time ≤ closing) :
    ∀ left ∈ r.pauses clock, left ≤ 1 / 60 := by
  obtain hnone | ⟨closing, left, -, hread, hleft, hone⟩ := h
  · rw [hnone]
    exact fun _ hmem ↦ (List.not_mem_nil hmem).elim
  · obtain ⟨-, htimeLeft⟩ := timeLeft?_exact hleft
    have hle := hclosing closing hread
    rw [hone]
    refine List.forall_mem_singleton.2 ?_
    linarith

end PausesOnce

/-- Under a clock that does not run backwards, neither the elapsed time of a round nor the time
within it is below zero. -/
theorem nonneg_of_readings (clock : Clock σ ℚ) {r : Round σ ℚ} (h : r.loop.machine.Ready)
    (hreadings : (r.loop.last :: r.readings clock).Pairwise (· ≤ ·)) :
    (∀ e ∈ r.times clock, 0 ≤ e) ∧ ∀ closing, r.closing? clock = some closing → r.time ≤ closing := by
  obtain ⟨hlast, hhead⟩ := List.pairwise_cons.1 hreadings
  constructor
  · intro e he
    obtain ⟨-, -, -, ⟨-, htimes⟩ | ⟨-, htimes⟩⟩ := timed clock h
    · rw [htimes, List.mem_singleton] at he
      rw [he, sub_nonneg]
      exact hlast r.time List.mem_cons_self
    · rw [htimes] at he
      cases he
  · intro closing hclosing
    refine (List.pairwise_cons.1 hhead).1 closing ?_
    rw [hclosing]
    exact List.mem_singleton_self closing

end Round

/-! ### Runs -/

namespace Loop

variable (clock : Clock σ ℚ) (count : Nat) (l : Loop σ ℚ)

/-- **The time of a run** goes to the clock of the timers, and the ticks are its answers. -/
theorem timed_run (h : l.machine.Ready) :
    ∃ counts, Machine.Timed l.machine (l.run clock count).2.machine
        ((l.rounds clock count).flatMap (Round.times clock)) counts ∧
      ((l.rounds clock count).map (Round.ticks clock)).sum = (counts.map Int.toNat).sum := by
  refine ready_induction clock (motive := fun m _ rounds n ↦
    ∃ counts, Machine.Timed m n (rounds.flatMap (Round.times clock)) counts ∧
      (rounds.map (Round.ticks clock)).sum = (counts.map Int.toNat).sum) ?_ ?_ ?_ count l h
  · exact fun m _ _ ↦ ⟨[], .refl m, rfl⟩
  · intro r hr
    obtain ⟨counts, htimed, hticks, -⟩ := Round.timed clock hr
    refine ⟨counts, ?_, ?_⟩
    · rw [List.flatMap_singleton]
      exact htimed
    · rw [List.map_singleton, List.sum_singleton, hticks]
  · rintro r rest n hr - ⟨more, hrest, hticksRest⟩
    obtain ⟨counts, htimed, hticks, -⟩ := Round.timed clock hr
    refine ⟨counts ++ more, ?_, ?_⟩
    · rw [List.flatMap_cons]
      exact htimed.trans hrest
    · rw [List.map_cons, List.sum_cons, hticks, hticksRest, List.map_append, List.sum_append]

/-- **The elapsed times telescope**: there is one for each frame that completes, and they add up to
the time from the start to the head of the last round that completes. -/
theorem sum_times (h : l.machine.Ready) :
    ((l.rounds clock count).flatMap (Round.times clock)).length =
        ((l.rounds clock count).filter (Round.completes clock)).length ∧
      ((l.rounds clock count).flatMap (Round.times clock)).sum =
        (((l.rounds clock count).filter (Round.completes clock)).map Round.time).getLastD l.last -
          l.last := by
  refine ready_induction clock (motive := fun _ last rounds _ ↦
    (rounds.flatMap (Round.times clock)).length =
        (rounds.filter (Round.completes clock)).length ∧
      (rounds.flatMap (Round.times clock)).sum =
        ((rounds.filter (Round.completes clock)).map Round.time).getLastD last - last)
    ?_ ?_ ?_ count l h
  · exact fun _ last _ ↦ ⟨rfl, (sub_self last).symm⟩
  · intro r hr
    obtain ⟨-, -, -, ⟨hcompletes, htimes⟩ | ⟨hcompletes, htimes⟩⟩ := Round.timed clock hr
    · simp [hcompletes, htimes]
    · simp [hcompletes, htimes]
  · rintro r rest n hr hcompletes ⟨hlength, hsum⟩
    obtain ⟨-, -, -, ⟨-, htimes⟩ | ⟨hnot, -⟩⟩ := Round.timed clock hr
    · rw [List.flatMap_cons, htimes, List.filter_cons_of_pos hcompletes, List.length_append,
        List.sum_append, hlength, hsum, List.map_cons, List.getLastD_cons]
      refine ⟨Nat.add_comm _ _, ?_⟩
      rw [List.sum_singleton]
      ring
    · rw [hcompletes] at hnot
      cases hnot

/-- Under a clock that does not run backwards no elapsed time is below zero, and no second reading
of a round lies before its head. -/
theorem nonneg_of_readings (h : l.machine.Ready)
    (hreadings : (l.last :: (l.rounds clock count).flatMap (Round.readings clock)).Pairwise
      (· ≤ ·)) :
    (∀ e ∈ (l.rounds clock count).flatMap (Round.times clock), 0 ≤ e) ∧
      ∀ r ∈ l.rounds clock count, ∀ closing, r.closing? clock = some closing → r.time ≤ closing := by
  refine ready_induction clock (motive := fun _ last rounds _ ↦
    (last :: rounds.flatMap (Round.readings clock)).Pairwise (· ≤ ·) →
      (∀ e ∈ rounds.flatMap (Round.times clock), 0 ≤ e) ∧
        ∀ r ∈ rounds, ∀ closing, r.closing? clock = some closing → r.time ≤ closing)
    ?_ ?_ ?_ count l h hreadings
  · exact fun _ _ _ _ ↦ ⟨fun _ he ↦ (List.not_mem_nil he).elim,
      fun _ hr ↦ (List.not_mem_nil hr).elim⟩
  · intro r hr hreadings
    rw [List.flatMap_singleton] at hreadings ⊢
    obtain ⟨htimes, hclosing⟩ := Round.nonneg_of_readings clock hr hreadings
    exact ⟨htimes, List.forall_mem_singleton.2 hclosing⟩
  · intro r rest n hr hcompletes hrest hreadings
    rw [List.flatMap_cons] at hreadings ⊢
    obtain ⟨htimes, hclosing⟩ := Round.nonneg_of_readings clock hr
      (hreadings.sublist (List.prefix_append (r.loop.last :: r.readings clock) _).sublist)
    have hlater : (r.time :: rest.flatMap (Round.readings clock)).Pairwise (· ≤ ·) :=
      hreadings.sublist (.cons _ (.cons_cons _ (List.sublist_append_right _ _)))
    obtain ⟨htimesRest, hclosingRest⟩ := hrest hlater
    exact ⟨List.forall_mem_append.2 ⟨htimes, htimesRest⟩,
      List.forall_mem_cons.2 ⟨hclosing, hclosingRest⟩⟩

/-- **The ticks of a run** are the whole ones of what was pending and of the time of the run. -/
theorem sum_ticks (h : l.machine.Ready) (hpending : 0 ≤ l.machine.timers.pending)
    (hlt : l.machine.timers.pending < 1 / 60)
    (hnonneg : ∀ e ∈ (l.rounds clock count).flatMap (Round.times clock), 0 ≤ e) :
    (((l.rounds clock count).map (Round.ticks clock)).sum : ℤ) =
      ⌊60 * (l.machine.timers.pending +
        ((l.rounds clock count).flatMap (Round.times clock)).sum)⌋ := by
  obtain ⟨counts, htimed, hticks⟩ := timed_run clock count l h
  have hsettled : l.machine.timers.Settled := ⟨hpending, h.rate ▸ hlt⟩
  have hrate : 0 < l.machine.timers.rate := by
    rw [h.rate]
    norm_num
  obtain ⟨htotal, hcounts⟩ := TickClock.sum_counts hrate hsettled hnonneg htimed.counts
  rw [h.rate] at htotal
  rw [hticks, TickClock.sum_toNat hcounts, htotal]

/-- **The pauses of a run** are those of its rounds. -/
theorem pauses_run (h : l.machine.Ready) :
    (l.run clock count).2.machine.journal.pauses =
        l.machine.journal.pauses ++ (l.rounds clock count).flatMap (Round.pauses clock) ∧
      ∀ r ∈ l.rounds clock count, r.PausesOnce clock := by
  refine ready_induction clock (motive := fun m _ rounds n ↦
    n.journal.pauses = m.journal.pauses ++ rounds.flatMap (Round.pauses clock) ∧
      ∀ r ∈ rounds, r.PausesOnce clock) ?_ ?_ ?_ count l h
  · exact fun _ _ _ ↦ ⟨(List.append_nil _).symm, fun _ hr ↦ (List.not_mem_nil hr).elim⟩
  · intro r hr
    obtain ⟨hpauses, honce⟩ := Round.pausesOnce clock hr
    rw [List.flatMap_singleton]
    exact ⟨hpauses, List.forall_mem_singleton.2 honce⟩
  · rintro r rest n hr - ⟨hrest, honceRest⟩
    obtain ⟨hpauses, honce⟩ := Round.pausesOnce clock hr
    rw [List.flatMap_cons]
    exact ⟨by rw [hrest, hpauses, List.append_assoc], List.forall_mem_cons.2 ⟨honce, honceRest⟩⟩

end Loop

end ChipEight
