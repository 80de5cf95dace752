import ChipEight.Proofs.Machine.Tally
import ChipEight.Proofs.TimeNumber.WholeDoubles

/-!
# Reports over many runs

The host loop may be called on one machine again and again: a run ends with the host's wish to quit
or with a frame that fails, and the next one goes on with the counts that it left. Over any calls,
the figures that the titles tell and the counts at the end make up the counts at the start, the
instructions attempted and the displays shown (`tally_afterLoops`).

A report makes the next one due from the next whole second on. That second is computed in doubles,
and exactly so for the readings of a clock that has not run for too long (`dueFrom_secondAfter`), so
the reports of all calls lie in whole seconds that ascend (`reports_conserve`), however the clock
moves between two calls.
-/

namespace ChipEight

variable {α σ : Type} [TimeNumber α]

/-- A call of the host loop. -/
structure LoopCall (σ : Type) where
  /-- The state of the clock at the call. -/
  state : σ
  /-- The events of the polls to come. -/
  polls : List (List HostEvent)
  /-- The number of rounds that the call is followed for. -/
  count : Nat

namespace Machine

variable (clock : Clock σ α) (m : Machine α)

/-- The machine after a call of the loop. One whose clock fails at once leaves it as it is. -/
def afterLoop (c : LoopCall σ) : Machine α :=
  match Loop.start clock m c.state c.polls with
  | .error _ => m
  | .ok l => (l.run clock c.count).2.machine

/-- The rounds of a call of the loop. -/
def loopRounds (c : LoopCall σ) : List (Round σ α) :=
  match Loop.start clock m c.state c.polls with
  | .error _ => []
  | .ok l => l.rounds clock c.count

/-- The machine after calls of the loop in turn. -/
def afterLoops (calls : List (LoopCall σ)) : Machine α :=
  calls.foldl (afterLoop clock) m

/-- The rounds of calls of the loop in turn. -/
def loopsRounds (m : Machine α) : List (LoopCall σ) → List (Round σ α)
  | [] => []
  | c :: rest => m.loopRounds clock c ++ (m.afterLoop clock c).loopsRounds rest

variable {m}

/-- **Calls of the loop.** A relation of two machines and the rounds between them holds of every
sequence of calls on a machine that is ready if it holds without rounds and of one round, and can be
put together. -/
theorem loops_induction (clock : Clock σ α)
    {motive : Machine α → List (Round σ α) → Machine α → Prop} (stop : ∀ m, motive m [] m)
    (round : ∀ r : Round σ α, r.loop.machine.Ready → motive r.loop.machine [r] (r.after clock))
    (append : ∀ m k n rounds later,
      motive m rounds k → motive k later n → motive m (rounds ++ later) n)
    (h : m.Ready) (calls : List (LoopCall σ)) :
    motive m (m.loopsRounds clock calls) (m.afterLoops clock calls) := by
  induction calls generalizing m with
  | nil => exact stop m
  | cons c rest ih =>
    have hcall : motive m (m.loopRounds clock c) (m.afterLoop clock c) ∧
        (m.afterLoop clock c).Ready := by
      unfold afterLoop loopRounds
      rcases hstart : Loop.start clock m c.state c.polls with failure | l
      · exact ⟨stop m, h⟩
      · obtain ⟨first, opened, -, rfl⟩ := Loop.exists_start hstart
        refine ⟨?_, Loop.ready_run clock c.count ⟨m, opened, first, c.polls⟩ h⟩
        exact Loop.ready_induction clock (motive := fun m _ rounds n ↦ motive m rounds n)
          (fun m _ _ ↦ stop m) round
          (fun r rest n hr _ hrest ↦ append _ _ _ [r] rest (round r hr) hrest)
          c.count ⟨m, opened, first, c.polls⟩ h
    obtain ⟨hfirst, hready⟩ := hcall
    exact append _ _ _ _ _ hfirst (ih hready)

/-- **Counts are conserved** over any calls of the loop. -/
theorem tally_afterLoops (h : m.Ready) (clock : Clock σ α) (calls : List (LoopCall σ)) :
    Tally m (m.afterLoops clock calls)
      ((m.loopsRounds clock calls).flatMap (Round.titles clock))
      ((m.loopsRounds clock calls).map fun r ↦ (r.attempts clock).length).sum := by
  refine loops_induction clock (motive := fun m rounds n ↦
    Tally m n (rounds.flatMap (Round.titles clock))
      (rounds.map fun r ↦ (r.attempts clock).length).sum) .refl ?_ ?_ h calls
  · intro r hr
    obtain ⟨htally, -⟩ := Round.tally clock hr
    simp only [List.flatMap_singleton, List.map_singleton, List.sum_singleton]
    exact htally
  · intro m k n rounds later hfirst hlater
    rw [List.flatMap_append, List.map_append, List.sum_append]
    exact hfirst.trans hlater

/-- After a round, the renderer shows the title that was set last. -/
theorem title_afterLoops (h : m.Ready) (clock : Clock σ α) (calls : List (LoopCall σ)) :
    ∀ r ∈ m.loopsRounds clock calls,
      (r.after clock).renderer.title = (r.titles clock).getLastD r.loop.machine.renderer.title := by
  refine loops_induction clock (motive := fun _ rounds _ ↦ ∀ r ∈ rounds,
    (r.after clock).renderer.title =
      (r.titles clock).getLastD r.loop.machine.renderer.title) ?_ ?_ ?_ h calls
  · exact fun _ r hr ↦ (List.not_mem_nil hr).elim
  · intro r hr
    obtain ⟨htally, -⟩ := Round.tally clock hr
    exact List.forall_mem_singleton.2 htally.title
  · exact fun _ _ _ _ _ hfirst hlater ↦ List.forall_mem_append.2 ⟨hfirst, hlater⟩

end Machine

/-! ### Whole seconds -/

namespace Scalar

variable {t : Scalar} {v : ℚ} {start stop : ℤ}

/-- The reading of a clock that is not below zero, and so far from the bound of doubles that every
whole second up to it is a double. -/
def IsReading (t : Scalar) : Prop :=
  ∃ v, t.value? = some v ∧ 0 ≤ v ∧ v < 2 ^ 52

/-- The first time lies in an earlier whole second than the other one. -/
def EarlierSecond (t u : Scalar) : Prop :=
  ∃ v w, t.value? = some v ∧ u.value? = some w ∧ ⌊v⌋ < ⌊w⌋

/-- The readings that are not below a time lie in a second or later. -/
def DueFrom (start : ℤ) (next : Scalar) : Prop :=
  ∀ t v, t.value? = some v → 0 ≤ v → next.atMost t = true → start ≤ ⌊v⌋

theorem dueFrom_zero (next : Scalar) : DueFrom 0 next :=
  fun _ _ _ hnonneg _ ↦ Int.floor_nonneg.2 hnonneg

/-- **The whole second after a reading** is found exactly: readings from it on lie in a later
second. -/
theorem dueFrom_secondAfter {next : Scalar} (hv : t.value? = some v) (hnonneg : 0 ≤ v)
    (hlt : v < 2 ^ 52) (h : Machine.secondAfter t = .ok next) : DueFrom (⌊v⌋ + 1) next := by
  obtain ⟨second, hsecond⟩ := Int.eq_ofNat_of_zero_le (Int.floor_nonneg.2 hnonneg)
  have hbound : second < Binary64.hiddenBit := by
    have hfloor : ⌊v⌋ < 2 ^ 52 := Int.floor_lt.2 (by exact_mod_cast hlt)
    change second < 2 ^ 52
    omega
  obtain ⟨y, hadd, hy⟩ := exists_add_one hbound
  have hwhole : TimeNumber.whole t = .ok (second : ℤ) := hsecond ▸ wholePart_eq hv hnonneg
  obtain rfl : real y = next := by
    unfold Machine.secondAfter at h
    rw [hwhole] at h
    exact Except.ok.inj (hadd.symm.trans h)
  intro u w hw hwnonneg hle
  have hvalue := le_value_of_atMost second.succ_pos
    (Nat.succ_lt_succ hbound |>.trans_le (by decide)) hy hw hle
  rw [hsecond, Int.le_floor]
  exact_mod_cast hvalue

/-- The times lie in whole seconds that ascend, from one second on and before another one. -/
structure Ascending (start stop : ℤ) (times : List Scalar) : Prop where
  le : start ≤ stop
  bounds : ∀ t ∈ times, ∃ v, t.value? = some v ∧ start ≤ ⌊v⌋ ∧ ⌊v⌋ < stop
  sorted : times.Pairwise EarlierSecond

namespace Ascending

theorem nil (start : ℤ) : Ascending start start [] :=
  ⟨le_rfl, fun _ h ↦ (List.not_mem_nil h).elim, .nil⟩

theorem singleton (hv : t.value? = some v) (hstart : start ≤ ⌊v⌋) :
    Ascending start (⌊v⌋ + 1) [t] := by
  refine ⟨by omega, fun u hu ↦ ?_, List.pairwise_singleton _ t⟩
  rw [List.mem_singleton.1 hu]
  exact ⟨v, hv, hstart, by omega⟩

/-- Times behind each other. -/
theorem append {between : ℤ} {times later : List Scalar} (h : Ascending start between times)
    (h' : Ascending between stop later) : Ascending start stop (times ++ later) := by
  refine ⟨h.le.trans h'.le, fun t ht ↦ ?_, List.pairwise_append.2 ⟨h.sorted, h'.sorted, ?_⟩⟩
  · rcases List.mem_append.1 ht with ht | ht
    · obtain ⟨v, hv, hlow, hhigh⟩ := h.bounds t ht
      exact ⟨v, hv, hlow, hhigh.trans_le h'.le⟩
    · obtain ⟨v, hv, hlow, hhigh⟩ := h'.bounds t ht
      exact ⟨v, hv, h.le.trans hlow, hhigh⟩
  · intro t ht u hu
    obtain ⟨v, hv, -, hhigh⟩ := h.bounds t ht
    obtain ⟨w, hw, hlow, -⟩ := h'.bounds u hu
    exact ⟨v, w, hv, hw, hhigh.trans_le hlow⟩

end Ascending

end Scalar

namespace Machine

variable {clock : Clock σ Scalar} {m : Machine Scalar}

/-- The report of a round, if there is one, lies in a second from which it was due, and the next one
is due in a later second. -/
theorem ascending_round (clock : Clock σ Scalar) {r : Round σ Scalar} {start : ℤ} (h : r.loop.machine.Ready)
    (hdue : Scalar.DueFrom start r.loop.machine.nextReport) (htime : r.time.IsReading) :
    ∃ stop, Scalar.Ascending start stop (r.reportTimes clock) ∧
      Scalar.DueFrom stop (r.after clock).nextReport := by
  obtain ⟨v, hv, hnonneg, hlt⟩ := htime
  obtain ⟨-, -, ⟨hnone, hsame⟩ | ⟨hone, hle, hsecond⟩⟩ := Round.tally clock h
  · refine ⟨start, ?_, hsame ▸ hdue⟩
    unfold Round.reportTimes
    rw [hnone]
    exact .nil start
  · refine ⟨⌊v⌋ + 1, ?_, Scalar.dueFrom_secondAfter hv hnonneg hlt hsecond⟩
    obtain ⟨title, htitle⟩ := List.length_eq_one_iff.1 hone
    unfold Round.reportTimes
    rw [htitle]
    exact .singleton hv (hdue r.time v hv hnonneg hle)

/-- **Reports lie in ascending seconds** over any calls of the loop. -/
theorem ascending_afterLoops (h : m.Ready) (calls : List (LoopCall σ))
    (htimes : ∀ r ∈ m.loopsRounds clock calls, r.time.IsReading) :
    ((m.loopsRounds clock calls).flatMap (Round.reportTimes clock)).Pairwise
      Scalar.EarlierSecond := by
  refine (loops_induction clock
    (motive := fun m rounds n ↦ ∀ start, Scalar.DueFrom start m.nextReport →
      (∀ r ∈ rounds, r.time.IsReading) →
        ∃ stop, Scalar.Ascending start stop (rounds.flatMap (Round.reportTimes clock)) ∧
          Scalar.DueFrom stop n.nextReport)
    ?_ ?_ ?_ h calls 0 (Scalar.dueFrom_zero _) htimes).elim fun _ ⟨hascending, _⟩ ↦
      hascending.sorted
  · exact fun m start hdue _ ↦ ⟨start, .nil start, hdue⟩
  · intro r hr start hdue htime
    rw [List.flatMap_singleton]
    exact ascending_round clock hr hdue (htime r List.mem_cons_self)
  · intro m k n rounds later hfirst hlater start hdue htimes
    obtain ⟨hrounds, hrest⟩ := List.forall_mem_append.1 htimes
    obtain ⟨between, hascending, hbetween⟩ := hfirst start hdue hrounds
    obtain ⟨stop, hnext, hstop⟩ := hlater between hbetween hrest
    rw [List.flatMap_append]
    exact ⟨stop, hascending.append hnext, hstop⟩

/-- **Reports conserve the counts.** Calls of the host loop under any clock, with any events, on a
machine that was created and then used in any way. Every title that the calls set tells two figures,
and they can be read off its text: the instructions in the figures and those still counted at the
end are those counted at the start and those that the frames attempted, whether the calls end by the
host's wish or by a failure in the middle of a frame; and likewise for the displays that were shown.
After each round the renderer shows the title set last. And under a clock whose readings are not
below zero and below `2 ^ 52`, no two of these titles are set in the same whole second: the seconds
ascend. -/
theorem reports_conserve {renderer : Renderer} {inputs : Inputs Scalar} {audio : Audio}
    {speed : Setting Scalar} {debugger : Debugger} {seed : Setting Int} {keypadShared : Bool}
    {made : Machine Scalar}
    (h : create renderer inputs audio speed debugger seed keypadShared = .ok made)
    (actions : List (Action Scalar)) (clock : Clock σ Scalar) (calls : List (LoopCall σ)) :
    let m := made.afterActions actions
    let n := m.afterLoops clock calls
    let rounds := m.loopsRounds clock calls
    let titles := rounds.flatMap (Round.titles clock)
    ∃ figures : List (Nat × Nat),
      n.journal.titles = m.journal.titles ++ titles ∧ titles.map figures? = figures.map some ∧
      (figures.map Prod.snd).sum + n.operations =
        m.operations + (rounds.map fun r ↦ (r.attempts clock).length).sum ∧
      (∃ shown, n.journal.displays = m.journal.displays ++ shown ∧
        (figures.map Prod.fst).sum + n.framesShown = m.framesShown + shown.length) ∧
      (∀ r ∈ rounds, (r.after clock).renderer.title =
        (r.titles clock).getLastD r.loop.machine.renderer.title) ∧
      ((∀ r ∈ rounds, r.time.IsReading) →
        (rounds.flatMap (Round.reportTimes clock)).Pairwise Scalar.EarlierSecond) := by
  intro m n rounds titles
  have hready : m.Ready := (ready_create h).afterActions actions
  have htally : Tally m n titles _ := tally_afterLoops hready clock calls
  exact ⟨titles.filterMap figures?, htally.titles, htally.told, htally.operations, htally.frames,
    title_afterLoops hready clock calls, ascending_afterLoops hready calls⟩

/-- A jump to itself, loaded as a program. -/
def idling : List (Action Scalar) :=
  [.operation (.load [0x12, 0x00])]

/-- A run of three rounds up to the host's wish to quit, and one that ends with its first round. -/
def twoCalls : List (LoopCall (Metronome Scalar)) :=
  [⟨⟨.whole 0, .whole 1⟩, [[], []], 5⟩, ⟨⟨.whole 5, .whole 1⟩, [], 5⟩]

/-- The titles of these calls. -/
def idlingTitles : List String :=
  ["MonoChip Emulator - 0 FPS, 0 OPS", "MonoChip Emulator - 1 FPS, 2 OPS",
    "MonoChip Emulator - 0 FPS, 4 OPS", "MonoChip Emulator - 0 FPS, 0 OPS"]

/-- At two instructions a second, six are executed in two frames of one and of two seconds. They are
told in the rounds behind them, and the second call has nothing left to tell. -/
theorem reports_conserve_idling :
    ∃ made : Machine Scalar, create (Renderer.fresh .headless 1 "") .script Audio.silent
        (.given (.whole 2)) .absent (.given 1) true = .ok made ∧
      let m := made.afterActions idling
      let n := m.afterLoops Metronome.clock twoCalls
      let rounds := m.loopsRounds Metronome.clock twoCalls
      n.journal.titles = m.journal.titles ++ idlingTitles ∧
        6 + n.operations =
          m.operations + (rounds.map fun r ↦ (r.attempts Metronome.clock).length).sum ∧
        (rounds.flatMap (Round.reportTimes Metronome.clock)).Pairwise Scalar.EarlierSecond := by
  obtain ⟨made, hmade, -⟩ := exists_create_headless (α := Scalar) .script Audio.silent
    (.whole 2) rfl .absent 1 true
  have hrun : (match create (α := Scalar) (Renderer.fresh .headless 1 "") .script Audio.silent
      (.given (.whole 2)) .absent (.given 1) true with
    | .ok made =>
      let rounds := (made.afterActions idling).loopsRounds Metronome.clock twoCalls
      (rounds.flatMap (Round.titles Metronome.clock), rounds.map fun r ↦ r.time.value?)
    | .error _ => ([], [])) = (idlingTitles, [some 1, some 3, some 5, some 6]) := by
    decide +kernel
  rw [hmade] at hrun
  obtain ⟨htitles, htimes⟩ := Prod.mk.inj hrun
  obtain ⟨figures, hset, htold, hoperations, -, -, hseconds⟩ :=
    reports_conserve hmade idling Metronome.clock twoCalls
  rw [htitles] at hset htold
  have hfigures : figures = [(0, 0), (1, 2), (0, 4), (0, 0)] := by
    have hread : idlingTitles.map figures? = [(0, 0), (1, 2), (0, 4), (0, 0)].map some := by
      decide +kernel
    exact List.map_injective_iff.2 (fun _ _ ↦ Option.some.inj) (htold.symm.trans hread)
  rw [hfigures] at hoperations
  refine ⟨made, hmade, hset, hoperations, hseconds fun r hr ↦ ?_⟩
  have htime : r.time.value? ∈ [some 1, some 3, some 5, some 6] :=
    htimes ▸ List.mem_map_of_mem hr
  obtain ⟨v, hbounds, hv⟩ :
      ∃ v ∈ [(1 : ℚ), 3, 5, 6], some v = r.time.value? := List.mem_map.1 htime
  have hall : ∀ v ∈ [(1 : ℚ), 3, 5, 6], 0 ≤ v ∧ v < 2 ^ 52 := by decide +kernel
  exact ⟨v, hv.symm, hall v hbounds⟩

end Machine

end ChipEight
