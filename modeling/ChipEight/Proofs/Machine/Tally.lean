import ChipEight.Proofs.Machine.Rounds
import ChipEight.Proofs.Machine.Showing
import ChipEight.Proofs.Machine.Titles
import Mathlib.Algebra.BigOperators.Group.List.Basic
import Mathlib.Tactic.Linarith

/-!
# Counts and reports

A machine counts the instructions that its frames attempt and the displays that it shows. The host
loop reports both counts in a title at the head of a round and sets them to zero. `Tally` says what
a stretch of a run did to them: the figures that its titles tell and the counts at the end make up
the counts at the start and what happened in between. Stretches are put together by `Tally.trans`,
so it is enough to know the tally of a report, of a frame and of the end of a round; nothing is lost
where a frame breaks off, since the parts of it that were done are parts of the stretch.

A report sets the counts to zero only if the renderer takes the title, and a display counts only if
the renderer shows it. Both always do in a machine that was created (`Ready`), in front of every
round of a run, so an induction over runs may rely on it (`Loop.ready_induction`).
-/

namespace ChipEight

variable {α σ : Type}

namespace Machine

variable [TimeNumber α] {m n k : Machine α}

/-! ### Renderers that take everything -/

/-- The renderer takes whatever the machine hands to it. -/
structure Ready (m : Machine α) : Prop where
  /-- The machine works within its bounds. -/
  running : ∃ speed keypadShared program, Running speed keypadShared program m
  /-- The renderer takes titles. -/
  titles : m.renderer.TakesTitles

/-- **A machine that was created** is ready: it has shown a title already. -/
theorem ready_create {renderer : Renderer} {inputs : Inputs α} {audio : Audio} {speed : Setting α}
    {debugger : Debugger} {seed : Setting Int} {keypadShared : Bool}
    (h : create renderer inputs audio speed debugger seed keypadShared = .ok m) : m.Ready := by
  obtain ⟨value, -, hrunning⟩ := running_create h
  refine ⟨⟨value, keypadShared, [], hrunning⟩, ?_⟩
  unfold create at h
  split at h
  · cases h
  · split at h
    · cases h
    · split at h
      · cases h
      · rename_i hreport
        cases h
        unfold report at hreport
        dsimp only at hreport
        split at hreport
        · cases hreport
        · rename_i htitle
          cases hreport
          exact Renderer.takesTitles_of_setTitle htitle

namespace Ready

theorem fits (h : m.Ready) : m.renderer.Fits m.core.display.pixels.size := by
  obtain ⟨_, _, _, hrunning⟩ := h.running
  exact hrunning.fits_display

theorem pass (h : m.Ready) (part : Part α) : (m.pass part).Ready := by
  obtain ⟨speed, keypadShared, _, hrunning⟩ := h.running
  obtain ⟨program, hpassed⟩ := hrunning.pass part
  refine ⟨⟨speed, keypadShared, program, hpassed⟩, ?_⟩
  by_cases hpart : part = .refresh
  · subst hpart
    show m.refreshDisplay.2.renderer.TakesTitles
    unfold refreshDisplay showDisplay
    split
    · dsimp only [record]
      split
      · exact h.titles
      · rename_i hrefresh
        exact Renderer.takesTitles_refresh h.titles hrefresh
    · exact h.titles
  · obtain ⟨_, _, _, _, _, _, _, _, _, hfields⟩ := m.exists_pass_fields hpart
    have hrenderer : (m.pass part).renderer = m.renderer := by rw [hfields]
    exact hrenderer ▸ h.titles

theorem afterParts (h : m.Ready) (parts : List (Part α)) : (m.afterParts parts).Ready :=
  afterParts_invariant (fun _ part hn ↦ hn.pass part) h parts

theorem act (h : m.Ready) (action : Action α) : (m.act action).Ready := by
  cases action with
  | operation op =>
    show (m.operate op).Ready
    rw [operate_eq]
    exact h.afterParts _
  | event event =>
    obtain ⟨speed, keypadShared, program, hrunning⟩ := h.running
    exact ⟨⟨speed, keypadShared, program, hrunning.on event⟩, h.titles⟩

theorem afterActions (h : m.Ready) (actions : List (Action α)) : (m.afterActions actions).Ready := by
  induction actions generalizing m with
  | nil => exact h
  | cons action rest ih => exact ih (h.act action)

end Ready

/-! ### Tallies -/

/-- What a stretch of a run did to the counts, given the titles set in it and the number of
instructions that its frames attempted. -/
structure Tally (m n : Machine α) (set : List String) (attempted : Nat) : Prop where
  /-- The titles set. -/
  titles : n.journal.titles = m.journal.titles ++ set
  /-- The title set last is the one that the renderer shows. -/
  title : n.renderer.title = set.getLastD m.renderer.title
  /-- Each title tells two figures. -/
  told : set.map figures? = (set.filterMap figures?).map some
  /-- The instructions attempted are told in a title or still counted. -/
  operations : ((set.filterMap figures?).map Prod.snd).sum + n.operations =
    m.operations + attempted
  /-- The displays shown are told in a title or still counted. -/
  frames : ∃ shown, n.journal.displays = m.journal.displays ++ shown ∧
    ((set.filterMap figures?).map Prod.fst).sum + n.framesShown = m.framesShown + shown.length

namespace Tally

variable {set later : List String} {attempted more : Nat}

omit [TimeNumber α] in
theorem refl (m : Machine α) : Tally m m [] 0 where
  titles := (List.append_nil _).symm
  title := rfl
  told := rfl
  operations := by simp
  frames := ⟨[], (List.append_nil _).symm, by simp⟩

omit [TimeNumber α] in
/-- One stretch after another. The counts in between cancel. -/
theorem trans (h : Tally m k set attempted) (h' : Tally k n later more) :
    Tally m n (set ++ later) (attempted + more) where
  titles := by rw [h'.titles, h.titles, List.append_assoc]
  title := by simp only [h'.title, h.title, List.getLastD_eq_getLast?, List.getLast?_append,
    Option.getD_or]
  told := by rw [List.map_append, List.filterMap_append, List.map_append, h.told, h'.told]
  operations := by
    have hfirst := h.operations
    have hlater := h'.operations
    rw [List.filterMap_append, List.map_append, List.sum_append]
    omega
  frames := by
    obtain ⟨shown, hdisplays, hfirst⟩ := h.frames
    obtain ⟨shownLater, hdisplaysLater, hlater⟩ := h'.frames
    refine ⟨shown ++ shownLater, by rw [hdisplaysLater, hdisplays, List.append_assoc], ?_⟩
    rw [List.filterMap_append, List.map_append, List.sum_append, List.length_append]
    omega

omit [TimeNumber α] in
/-- The titles set in a stretch are those that the journal gained. -/
theorem drop_titles (h : Tally m n set attempted) :
    n.journal.titles.drop m.journal.titles.length = set := by
  rw [h.titles, List.drop_left]

end Tally

/-! ### Reports -/

omit [TimeNumber α] in
/-- The views of a journal with a title and calls added. -/
theorem views_of_title (j : Journal α) (title : String) (calls : List HostCall) :
    Journal.titles (j.push (.title title) ++ Journal.ofCalls calls) = j.titles ++ [title] ∧
      Journal.displays (j.push (.title title) ++ Journal.ofCalls calls) = j.displays := by
  rw [Array.push_eq_append]
  constructor
  · rw [Journal.titles_append, Journal.titles_append, Journal.titles_ofCalls, List.append_nil]
    rfl
  · rw [Journal.displays_append, Journal.displays_append, Journal.displays_ofCalls, List.append_nil]
    exact List.append_nil _

/-- **A report** is due or not. One that is due reports both counts and sets them to zero, and the
next one is due from the next whole second on; a second that cannot be found leaves the machine as
it was. -/
theorem reportDue_cases (h : m.renderer.TakesTitles) (time : α) :
    (∃ result, m.reportDue time = (result, m)) ∨
      ∃ nextReport calls, TimeNumber.le m.nextReport time = true ∧
        secondAfter time = .ok nextReport ∧
        m.reportDue time = (.ok (), { m with
          nextReport
          renderer := { m.renderer with title := reportTitle m.framesShown m.operations }
          journal := m.journal.push (.title (reportTitle m.framesShown m.operations)) ++
            Journal.ofCalls calls
          framesShown := 0
          operations := 0 }) := by
  unfold reportDue
  by_cases hdue : TimeNumber.le m.nextReport time = true
  · rw [if_pos hdue]
    rcases hsecond : secondAfter time with failure | nextReport
    · exact .inl ⟨_, rfl⟩
    · obtain ⟨calls, htitle⟩ := Renderer.exists_setTitle h (reportTitle m.framesShown m.operations)
      refine .inr ⟨nextReport, calls, hdue, rfl, ?_⟩
      unfold report
      dsimp only [record]
      rw [htitle]
      rfl
  · rw [if_neg hdue]
    exact .inl ⟨_, rfl⟩

/-- The title that the report of a round sets tells the counts, if it is due. -/
theorem tally_reportDue (h : m.Ready) (time : α) :
    ∃ set, Tally m (m.reportDue time).2 set 0 ∧ (m.reportDue time).2.Ready ∧
      (set = [] ∧ (m.reportDue time).2.nextReport = m.nextReport ∨
        set.length = 1 ∧
          TimeNumber.le m.nextReport time = true ∧
          secondAfter time = .ok (m.reportDue time).2.nextReport) := by
  obtain ⟨result, hdue⟩ | ⟨nextReport, calls, hle, hsecond, hdue⟩ := reportDue_cases h.titles time
  · rw [hdue]
    exact ⟨[], .refl m, h, .inl ⟨rfl, rfl⟩⟩
  · obtain ⟨speed, keypadShared, program, hrunning⟩ := h.running
    obtain ⟨htitles, hdisplays⟩ :=
      views_of_title m.journal (reportTitle m.framesShown m.operations) calls
    have hfigures := figures?_reportTitle m.framesShown m.operations
    have htold : [reportTitle m.framesShown m.operations].filterMap figures? =
        [(m.framesShown, m.operations)] := by
      rw [List.filterMap_cons_some hfigures, List.filterMap_nil]
    rw [hdue]
    refine ⟨[reportTitle m.framesShown m.operations], ⟨htitles, rfl, ?_, ?_, [], ?_, ?_⟩,
      ⟨⟨speed, keypadShared, program, { hrunning with }⟩, h.titles⟩, .inr ⟨rfl, hle, hsecond⟩⟩
    · rw [htold, List.map_singleton, hfigures, List.map_singleton]
    · rw [htold]
      rfl
    · rw [List.append_nil]
      exact hdisplays
    · rw [htold]
      rfl

/-! ### Frames -/

/-- **The instructions of a frame are counted**, also where it breaks off. -/
theorem operations_runFrame (m : Machine α) (elapsed : α) (events : List HostEvent) (now : α) :
    (m.runFrame elapsed events now).2.operations =
      m.operations + (m.attempts (.operation (.frame elapsed events now))).length := by
  rcases hpoll : m.poll events now with ⟨result, polled⟩
  have hpolled : polled.operations = m.operations :=
    (congrArg (fun done ↦ done.2.operations) hpoll).symm
  by_cases hgoes : result = .ok false
  · subst hgoes
    rw [attempts_frame_of_poll hpoll, runFrame_of_poll hpoll, ← hpolled,
      ← polled.operations_runInstructions]
    refine andThen_invariant (P := fun n ↦ n.operations = _) rfl fun _ ran hran ↦ ?_
    refine andThen_invariant (P := fun n ↦ n.operations = _) ?_ fun _ ticked hticked ↦ ?_
    · rw [← hran]
      rcases hadvance : ran.timers.advance elapsed with ⟨failure | ticks, timers⟩
      · rw [runTimers_of_error hadvance]
      · rw [runTimers_of_ok hadvance]
    refine andThen_invariant (P := fun n ↦ n.operations = _) ?_ fun _ shown hshown ↦ ?_
    · obtain ⟨_, _, _, _, _, hrefresh⟩ := ticked.exists_refreshDisplay_fields
      rw [hrefresh, ← hticked]
    · obtain ⟨_, _, hbuzzer⟩ := shown.exists_setBuzzer (shown.core.registers.st > 0)
      rw [hbuzzer, ← hshown]
      rfl
  · rw [attempts_frame_of_ne hpoll hgoes, runFrame_of_ne hpoll hgoes, hpolled]
    rfl

/-- No part of an operation sets a title, or changes the one shown or when a report is due. -/
theorem titles_pass (m : Machine α) (part : Part α) :
    (m.pass part).journal.titles = m.journal.titles ∧
      (m.pass part).renderer.title = m.renderer.title ∧
      (m.pass part).nextReport = m.nextReport := by
  constructor
  · refine (m.journal_pass part).titles_eq fun text hwrites ↦ ?_
    cases part
    all_goals simp [Part.Writes, Entry.IsText] at hwrites
  · by_cases hpart : part = .refresh
    · subst hpart
      show m.refreshDisplay.2.renderer.title = _ ∧ m.refreshDisplay.2.nextReport = _
      unfold refreshDisplay showDisplay
      split
      · dsimp only [record]
        split
        · exact ⟨rfl, rfl⟩
        · rename_i hrefresh
          exact ⟨Renderer.title_refresh hrefresh, rfl⟩
      · exact ⟨rfl, rfl⟩
    · obtain ⟨_, _, _, _, _, _, _, _, _, hfields⟩ := m.exists_pass_fields hpart
      rw [hfields]
      exact ⟨rfl, rfl⟩

/-- What parts do to the counts of a machine that is ready. -/
theorem Ready.exists_shown (h : m.Ready) (parts : List (Part α)) :
    ∃ shown, (m.afterParts parts).journal.displays = m.journal.displays ++ shown ∧
      (m.afterParts parts).framesShown = m.framesShown + shown.length := by
  induction parts generalizing m with
  | nil => exact ⟨[], (List.append_nil _).symm, rfl⟩
  | cons part rest ih =>
    obtain ⟨shown, hdisplays, hcount⟩ := m.counted_pass h.fits part
    obtain ⟨later, hdisplaysLater, hcountLater⟩ := ih (h.pass part)
    refine ⟨shown ++ later, ?_, ?_⟩
    · rw [afterParts_cons, hdisplaysLater, hdisplays, List.append_assoc]
    · rw [afterParts_cons, hcountLater, hcount, List.length_append, Nat.add_assoc]

/-- **A frame** sets no title, and counts what it attempts and shows. -/
theorem tally_runFrame (h : m.Ready) (elapsed : α) (events : List HostEvent) (now : α) :
    Tally m (m.runFrame elapsed events now).2 []
        (m.attempts (.operation (.frame elapsed events now))).length ∧
      (m.runFrame elapsed events now).2.Ready ∧
      (m.runFrame elapsed events now).2.nextReport = m.nextReport := by
  have hoperations := m.operations_runFrame elapsed events now
  have hparts : (m.runFrame elapsed events now).2 =
      m.afterParts (m.parts (.frame elapsed events now)) :=
    m.operate_eq (.frame elapsed events now)
  obtain ⟨htitles, htitle, hnext⟩ : (m.runFrame elapsed events now).2.journal.titles =
      m.journal.titles ∧ (m.runFrame elapsed events now).2.renderer.title = m.renderer.title ∧
      (m.runFrame elapsed events now).2.nextReport = m.nextReport := by
    rw [hparts]
    refine afterParts_invariant (P := fun n ↦ n.journal.titles = m.journal.titles ∧
      n.renderer.title = m.renderer.title ∧ n.nextReport = m.nextReport)
      (fun n part ⟨htitles, htitle, hnext⟩ ↦ ?_) ⟨rfl, rfl, rfl⟩ _
    obtain ⟨hsame, hkept, hdue⟩ := n.titles_pass part
    exact ⟨hsame.trans htitles, hkept.trans htitle, hdue.trans hnext⟩
  obtain ⟨shown, hdisplays, hcount⟩ := h.exists_shown (m.parts (.frame elapsed events now))
  rw [← hparts] at hdisplays hcount
  refine ⟨⟨?_, htitle, rfl, ?_, shown, hdisplays, ?_⟩, hparts ▸ h.afterParts _, hnext⟩
  · rw [htitles, List.append_nil]
  · simp [hoperations]
  · simp [hcount]

end Machine

/-! ### Rounds -/

namespace Round

variable [TimeNumber α] (clock : Clock σ α) (r : Round σ α)

/-- The states in front of the instructions that the frame of the round attempts. -/
def attempts : List Processor :=
  match r.frame? with
  | none => []
  | some (reported, elapsed) =>
    reported.attempts (.operation (.frame elapsed r.loop.events (r.now clock)))

/-- The titles set in the round. -/
def titles : List String :=
  (r.after clock).journal.titles.drop r.loop.machine.journal.titles.length

/-- The times of the reports of the round. -/
def reportTimes : List α :=
  (r.titles clock).map fun _ ↦ r.time

variable {r}

/-- What the end of a round does to the counts. -/
theorem tally_after (clock : Clock σ α) (h : (r.ran clock).2.Ready) :
    Machine.Tally (r.ran clock).2 (r.after clock) [] 0 ∧ (r.after clock).Ready ∧
      (r.after clock).nextReport = (r.ran clock).2.nextReport := by
  obtain ⟨speed, keypadShared, program, hrunning⟩ := h.running
  obtain ⟨journal, hafter, hadds⟩ := exists_after clock r
  have htitles : Journal.titles journal = (r.ran clock).2.journal.titles :=
    hadds.titles_eq fun text hentry ↦ by simp at hentry
  have hdisplays : Journal.displays journal = (r.ran clock).2.journal.displays :=
    hadds.displays_eq fun pixels hentry ↦ by simp at hentry
  rw [hafter]
  refine ⟨⟨?_, rfl, rfl, by simp, [], ?_, by simp⟩,
    ⟨⟨speed, keypadShared, program, { hrunning with }⟩, h.titles⟩, rfl⟩
  · rw [List.append_nil]
    exact htitles
  · rw [List.append_nil]
    exact hdisplays

/-- What the report and the frame of a round do to the counts. -/
theorem tally_ran (clock : Clock σ α) (h : r.loop.machine.Ready) :
    ∃ set, Machine.Tally r.loop.machine (r.ran clock).2 set (r.attempts clock).length ∧
      (r.ran clock).2.Ready ∧
      (set = [] ∧ (r.ran clock).2.nextReport = r.loop.machine.nextReport ∨
        set.length = 1 ∧ TimeNumber.le r.loop.machine.nextReport r.time = true ∧
          Machine.secondAfter r.time = .ok (r.ran clock).2.nextReport) := by
  obtain ⟨set, htally, hready, hset⟩ := Machine.tally_reportDue h r.time
  refine ⟨set, ?_⟩
  unfold attempts
  rcases hframe : r.frame? with - | ⟨reported, elapsed⟩
  · obtain ⟨-, hnone⟩ := ran_of_none clock hframe
    rw [hnone]
    exact ⟨htally, hready, hset⟩
  · obtain ⟨hreport, -, hframed⟩ := ran_of_some clock hframe
    rw [hreport] at htally hready hset
    obtain ⟨hcounts, hkept, hnext⟩ :=
      Machine.tally_runFrame hready elapsed r.loop.events (r.now clock)
    have hboth := htally.trans hcounts
    rw [List.append_nil, Nat.zero_add] at hboth
    rw [hframed, hnext]
    exact ⟨hboth, hkept, hset⟩

/-- **A round** reports the counts if a report is due, and counts what its frame attempts and
shows. -/
theorem tally (clock : Clock σ α) (h : r.loop.machine.Ready) :
    Machine.Tally r.loop.machine (r.after clock) (r.titles clock) (r.attempts clock).length ∧
      (r.after clock).Ready ∧
      (r.titles clock = [] ∧ (r.after clock).nextReport = r.loop.machine.nextReport ∨
        (r.titles clock).length = 1 ∧
          TimeNumber.le r.loop.machine.nextReport r.time = true ∧
          Machine.secondAfter r.time = .ok (r.after clock).nextReport) := by
  obtain ⟨set, hcounts, hkept, hset⟩ := tally_ran clock h
  obtain ⟨hend, hafter, hlast⟩ := tally_after clock hkept
  have htotal := hcounts.trans hend
  rw [List.append_nil, Nat.add_zero] at htotal
  have htitles : r.titles clock = set := htotal.drop_titles
  rw [htitles, hlast]
  exact ⟨htotal, hafter, hset⟩

end Round

/-! ### Runs -/

namespace Loop

variable [TimeNumber α] (clock : Clock σ α)

/-- **Runs of a machine that is ready.** It is ready in front of every round, and in the end. -/
theorem ready_induction {motive : Machine α → α → List (Round σ α) → Machine α → Prop}
    (stop : ∀ m last, m.Ready → motive m last [] m)
    (final : ∀ r : Round σ α, r.loop.machine.Ready →
      motive r.loop.machine r.loop.last [r] (r.after clock))
    (next : ∀ (r : Round σ α) rest n, r.loop.machine.Ready → r.completes clock = true →
      motive (r.after clock) r.time rest n → motive r.loop.machine r.loop.last (r :: rest) n)
    (count : Nat) (l : Loop σ α) (h : l.machine.Ready) :
    motive l.machine l.last (l.rounds clock count) (l.run clock count).2.machine := by
  refine rounds_induction clock (motive := fun m last rounds n ↦ m.Ready → motive m last rounds n)
    stop final ?_ count l h
  intro r rest n hcompletes hrest hr
  obtain ⟨-, hready, -⟩ := Round.tally clock hr
  exact next r rest n hr hcompletes (hrest hready)

theorem ready_run (count : Nat) (l : Loop σ α) (h : l.machine.Ready) :
    (l.run clock count).2.machine.Ready := by
  refine ready_induction clock (motive := fun _ _ _ n ↦ n.Ready) (fun _ _ hm ↦ hm) (fun r hr ↦ ?_)
    (fun _ _ _ _ _ hn ↦ hn) count l h
  obtain ⟨-, hready, -⟩ := Round.tally clock hr
  exact hready

end Loop

end ChipEight
