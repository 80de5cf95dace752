import ChipEight.Machine.Loop
import ChipEight.Proofs.Host.Journal

/-!
# Rounds of the host loop

A run of the host loop is a list of rounds, of which all but the last one complete their frames
(`Loop.rounds`). A round is a report, if one is due, and a frame; then the host's wish to quit is
logged, or a pause sleeps off what is left of the round (`Round.after_cases`). So what a run does to
a machine follows from what a round does to it: `Loop.rounds_induction` is the induction over runs,
done once. It keeps of the loop what rounds hand to each other, the machine and the time at the head
of the last round.
-/

namespace ChipEight

variable {α σ : Type} [TimeNumber α]

/-- A round: the loop in front of it, its clock having been read, and the time at its head. -/
structure Round (σ α : Type) where
  /-- The loop in front of the round. -/
  loop : Loop σ α
  /-- The time at the head of the round. -/
  time : α

namespace Round

variable (clock : Clock σ α) (r : Round σ α)

/-- The time of the round's poll. -/
def now : α :=
  clock.look r.loop.clock

/-- The report, if it is due, and the frame. -/
def ran : Except Failure Bool × Machine α :=
  r.loop.machine.runRound r.loop.last r.time r.loop.events (r.now clock)

/-- Whether the frame of the round completes. -/
def completes : Bool :=
  match (r.ran clock).1 with
  | .ok goes => goes
  | .error _ => false

/-- The machine after the round. -/
def after : Machine α :=
  (r.loop.round clock r.time).2.machine

/-- The reading at the end of the round, which is taken if the frame completes. -/
def closing? : Option α :=
  match r.completes clock, clock.read r.loop.clock with
  | true, .ok (time, _) => some time
  | _, _ => none

/-- The readings taken in the round. -/
def readings : List α :=
  r.time :: (r.closing? clock).toList

/-- The machine in front of the frame of the round and the time elapsed, unless the round fails
before its frame. -/
def frame? : Option (Machine α × α) :=
  match r.loop.machine.reportDue r.time with
  | (.error _, _) => none
  | (.ok (), reported) =>
    match TimeNumber.sub r.time r.loop.last with
    | .error _ => none
    | .ok elapsed => some (reported, elapsed)

variable {clock r}

theorem completes_iff : r.completes clock = true ↔ (r.ran clock).1 = .ok true := by
  unfold completes
  rcases (r.ran clock).1 with failure | goes
  · simp
  · simp

/-- A round without a frame leaves the machine as its report does, and does not complete. -/
theorem ran_of_none (clock : Clock σ α) (h : r.frame? = none) :
    (∃ failure, (r.ran clock).1 = .error failure) ∧
      (r.ran clock).2 = (r.loop.machine.reportDue r.time).2 := by
  unfold frame? at h
  unfold ran Machine.runRound
  rcases hdue : r.loop.machine.reportDue r.time with ⟨failure | done, reported⟩
  · exact ⟨⟨failure, rfl⟩, rfl⟩
  · rcases hsub : TimeNumber.sub r.time r.loop.last with failure | elapsed
    · exact ⟨⟨failure, rfl⟩, rfl⟩
    · rw [hdue, hsub] at h
      cases h

/-- A round with a frame is its report and the frame. -/
theorem ran_of_some (clock : Clock σ α) {reported : Machine α} {elapsed : α}
    (h : r.frame? = some (reported, elapsed)) :
    r.loop.machine.reportDue r.time = (.ok (), reported) ∧
      TimeNumber.sub r.time r.loop.last = .ok elapsed ∧
      r.ran clock = reported.runFrame elapsed r.loop.events (r.now clock) := by
  unfold frame? at h
  unfold ran Machine.runRound
  rcases hdue : r.loop.machine.reportDue r.time with ⟨failure | done, reported'⟩
  · rw [hdue] at h
    cases h
  · rcases hsub : TimeNumber.sub r.time r.loop.last with failure | elapsed'
    · rw [hdue, hsub] at h
      cases h
    · rw [hdue, hsub] at h
      cases h
      exact ⟨rfl, rfl, rfl⟩

end Round

/-! ### What follows the frame -/

/-- What is left of a round is slept off, and the time at its head is handed on. -/
theorem Loop.rest_cases (clock : Clock σ α) (time : α) (l : Loop σ α) :
    (∀ next, l.rest clock time = (.ok (), next) → next.last = time) ∧
      ((l.rest clock time).2.machine = l.machine ∨
        ∃ closing state left, clock.read l.clock = .ok (closing, state) ∧
          Machine.timeLeft? time closing = .ok (some left) ∧
          (l.rest clock time).2.machine = l.machine.record (.pause left)) := by
  unfold rest
  rcases clock.read l.clock with failure | ⟨closing, state⟩
  · exact ⟨fun next hnext ↦ (by cases hnext), .inl rfl⟩
  · dsimp only
    rcases hleft : Machine.timeLeft? time closing with failure | left
    · exact ⟨fun next hnext ↦ (by cases hnext), .inl rfl⟩
    · rcases left with - | left
      · refine ⟨fun next hnext ↦ ?_, .inl rfl⟩
        cases hnext
        rfl
      · dsimp only
        rcases clock.pause left state with failure | paused
        · exact ⟨fun next hnext ↦ (by cases hnext), .inr ⟨closing, state, left, rfl, hleft, rfl⟩⟩
        · refine ⟨fun next hnext ↦ ?_, .inr ⟨closing, state, left, rfl, hleft, rfl⟩⟩
          cases hnext
          rfl

namespace Round

variable {clock : Clock σ α} {r : Round σ α}

/-- A round is a report, a frame, and what follows the frame. -/
theorem round_eq (clock : Clock σ α) (r : Round σ α) :
    r.loop.round clock r.time =
      match r.ran clock with
      | (.error failure, machine) =>
        (some (.error failure), { r.loop with machine, polls := r.loop.polls.tail })
      | (.ok false, machine) =>
        (some (.ok ()), { r.loop with
          machine := machine.record (.log .info Machine.quitText)
          polls := r.loop.polls.tail })
      | (.ok true, machine) =>
        match { r.loop with machine, polls := r.loop.polls.tail }.rest clock r.time with
        | (.error failure, l) => (some (.error failure), l)
        | (.ok (), l) => (none, l) := by
  unfold Loop.round ran now
  rcases r.loop.machine.runRound r.loop.last r.time r.loop.events (clock.look r.loop.clock) with
    ⟨failure | goes, machine⟩
  · rfl
  · cases goes
    · rfl
    · rfl

/-- The loop ends with a round whose frame does not complete, at most with the log of the host's
wish to quit. -/
theorem round_of_not_completes (h : r.completes clock = false) :
    (∃ result, (r.loop.round clock r.time).1 = some result) ∧
      (r.after clock = (r.ran clock).2 ∨
        r.after clock = (r.ran clock).2.record (.log .info Machine.quitText)) := by
  unfold completes at h
  unfold after
  rw [round_eq]
  rcases hran : r.ran clock with ⟨failure | goes, machine⟩
  · exact ⟨⟨_, rfl⟩, .inl rfl⟩
  · rw [hran] at h
    obtain rfl : goes = false := h
    exact ⟨⟨_, rfl⟩, .inr rfl⟩

/-- A round whose frame completes ends with a rest. -/
theorem round_of_completes (h : r.completes clock = true) :
    r.loop.round clock r.time =
      match { r.loop with machine := (r.ran clock).2, polls := r.loop.polls.tail }.rest clock
        r.time with
      | (.error failure, l) => (some (.error failure), l)
      | (.ok (), l) => (none, l) := by
  rw [round_eq, show r.ran clock = (.ok true, (r.ran clock).2) from
    Prod.ext (completes_iff.1 h) rfl]

/-- A round that the loop goes on from has completed its frame, and hands on the time at its
head. -/
theorem goes_on {next : Loop σ α} (h : r.loop.round clock r.time = (none, next)) :
    r.completes clock = true ∧ next.last = r.time := by
  rcases hcompletes : r.completes clock
  · obtain ⟨⟨_, hended⟩, -⟩ := round_of_not_completes hcompletes
    rw [h] at hended
    cases hended
  · refine ⟨rfl, ?_⟩
    obtain ⟨hlast, -⟩ := Loop.rest_cases clock r.time
      { r.loop with machine := (r.ran clock).2, polls := r.loop.polls.tail }
    rw [round_of_completes hcompletes] at h
    split at h
    · cases h
    · rename_i hrest
      cases h
      exact hlast _ hrest

/-- **The end of a round** adds at most one entry to the journal: the log of the host's wish to
quit, or a pause behind a frame that completes. -/
theorem after_cases (clock : Clock σ α) (r : Round σ α) :
    r.after clock = (r.ran clock).2 ∨
      (r.completes clock = false ∧
        r.after clock = (r.ran clock).2.record (.log .info Machine.quitText)) ∨
      ∃ closing left, r.completes clock = true ∧ r.closing? clock = some closing ∧
        Machine.timeLeft? r.time closing = .ok (some left) ∧
        r.after clock = (r.ran clock).2.record (.pause left) := by
  rcases h : r.completes clock
  · obtain ⟨-, hafter | hafter⟩ := round_of_not_completes h
    · exact .inl hafter
    · exact .inr (.inl ⟨rfl, hafter⟩)
  · have hmachine : r.after clock = ({ r.loop with
        machine := (r.ran clock).2
        polls := r.loop.polls.tail }.rest clock r.time).2.machine := by
      unfold after
      rw [round_of_completes h]
      split <;> (rename_i hrest; rw [hrest])
    rw [hmachine]
    obtain ⟨-, hafter | ⟨closing, state, left, hread, hleft, hafter⟩⟩ := Loop.rest_cases clock
      r.time { r.loop with machine := (r.ran clock).2, polls := r.loop.polls.tail }
    · exact .inl hafter
    · refine .inr (.inr ⟨closing, left, rfl, ?_, hleft, hafter⟩)
      unfold closing?
      rw [h, hread]

/-- The end of a round writes nothing but the journal. -/
theorem exists_after (clock : Clock σ α) (r : Round σ α) :
    ∃ journal, r.after clock = { (r.ran clock).2 with journal } ∧
      Journal.Adds (fun entry ↦ (∃ text, entry = .log .info text) ∨ ∃ left, entry = .pause left)
        (r.ran clock).2.journal journal := by
  obtain hafter | ⟨-, hafter⟩ | ⟨_, _, -, -, -, hafter⟩ := after_cases clock r
  · exact ⟨_, hafter, .refl _⟩
  · exact ⟨_, hafter, .push (.inl ⟨_, rfl⟩)⟩
  · exact ⟨_, hafter, .push (.inr ⟨_, rfl⟩)⟩

end Round

/-! ### Runs -/

namespace Loop

variable {clock : Clock σ α}

/-- The rounds of a run. -/
def rounds (clock : Clock σ α) : Nat → Loop σ α → List (Round σ α)
  | 0, _ => []
  | count + 1, l =>
    match clock.read l.clock with
    | .error _ => []
    | .ok (time, state) =>
      ⟨{ l with clock := state }, time⟩ ::
        match { l with clock := state }.round clock time with
        | (some _, _) => []
        | (none, next) => rounds clock count next

omit [TimeNumber α] in
/-- The start of the loop takes the first reading, and nothing else. -/
theorem exists_start {m : Machine α} {state : σ} {polls : List (List HostEvent)} {l : Loop σ α}
    (h : start clock m state polls = .ok l) :
    ∃ first opened, clock.read state = .ok (first, opened) ∧ l = ⟨m, opened, first, polls⟩ := by
  unfold start at h
  dsimp only [bind, Except.bind] at h
  split at h
  · cases h
  · rename_i reading hread
    exact ⟨reading.1, reading.2, hread, (Except.ok.inj h).symm⟩

/-- **Runs.** A property of a machine, the time at the head of the last round, the rounds to come
and the machine after them holds of every run if it holds without rounds and of a last round, and
is carried back over a round whose frame completes. -/
theorem rounds_induction (clock : Clock σ α)
    {motive : Machine α → α → List (Round σ α) → Machine α → Prop}
    (stop : ∀ m last, motive m last [] m)
    (final : ∀ r : Round σ α, motive r.loop.machine r.loop.last [r] (r.after clock))
    (next : ∀ (r : Round σ α) rest n, r.completes clock = true →
      motive (r.after clock) r.time rest n → motive r.loop.machine r.loop.last (r :: rest) n)
    (count : Nat) (l : Loop σ α) :
    motive l.machine l.last (l.rounds clock count) (l.run clock count).2.machine := by
  induction count generalizing l with
  | zero => exact stop l.machine l.last
  | succ count ih =>
    unfold rounds run iterate
    rcases clock.read l.clock with failure | ⟨time, state⟩
    · exact stop l.machine l.last
    · dsimp only
      have hfinal := final ⟨{ l with clock := state }, time⟩
      have hnext := next ⟨{ l with clock := state }, time⟩
      have hgoes := @Round.goes_on _ _ _ clock ⟨{ l with clock := state }, time⟩
      unfold Round.after at hfinal hnext
      dsimp only at hfinal hnext hgoes
      rcases hround : round clock time { l with clock := state } with ⟨ended, after⟩
      rw [hround] at hfinal hnext hgoes
      rcases ended with - | result
      · obtain ⟨hcompletes, hlast⟩ := hgoes rfl
        exact hnext _ _ hcompletes (hlast ▸ ih after)
      · exact hfinal

end Loop

end ChipEight
