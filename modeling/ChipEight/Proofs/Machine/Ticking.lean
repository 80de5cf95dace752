import ChipEight.Proofs.Machine.Stages
import ChipEight.Proofs.Pacing.Accounts
import Mathlib.Algebra.Order.BigOperators.Group.List

/-!
# The timers follow the time

The two timers of a machine count down by the ticks of one clock. `Ticking` says that elapsed times
are handed to the clock in turn, and that whatever else happens to the machine before, between and
after leaves the clock and the two timers alone. Then the timers have moved by all the ticks
together, each down to zero and no further (`Ticking.timers`).

Over exact time the ticks are those of the whole time, however it is cut (`ticks_follow_time`): the
remainder that the clock carries from one call to the next is neither lost nor counted twice.
-/

namespace ChipEight

theorem Registers.timerAfter_zero (timer : Int) : timerAfter 0 timer = timer := by
  unfold timerAfter
  omega

/-- A timer counts down by two numbers of ticks as it does by their sum. -/
theorem Registers.timerAfter_add (first second : Nat) (timer : Int) :
    timerAfter (first + second) timer = timerAfter second (timerAfter first timer) := by
  unfold timerAfter
  omega

namespace Machine

variable {α : Type} {m n : Machine α} {times : List α}

/-- The same tick clock, and the same timers. -/
structure SameTimers (m n : Machine α) : Prop where
  clock : n.timers = m.timers
  delay : n.core.registers.dt = m.core.registers.dt
  sound : n.core.registers.st = m.core.registers.st

/-- Elapsed times are handed to the timers of a machine in turn, and nothing else touches clock and
timers. -/
inductive Ticking [TimeNumber α] : Machine α → List α → Machine α → Prop
  /-- No time, only other things. -/
  | done {m n : Machine α} (h : SameTimers m n) : Ticking m [] n
  /-- Other things, then a time, then the rest. -/
  | advance {m k n : Machine α} {elapsed : α} {rest : List α} (h : SameTimers m k)
      (hrest : Ticking (k.runTimers elapsed).2 rest n) : Ticking m (elapsed :: rest) n

variable [TimeNumber α]

/-- Times that are handed over with nothing between them. -/
theorem ticking_foldl (m : Machine α) (times : List α) :
    Ticking m times (times.foldl (fun m elapsed ↦ (m.runTimers elapsed).2) m) := by
  induction times generalizing m with
  | nil => exact .done ⟨rfl, rfl, rfl⟩
  | cons elapsed rest ih => exact .advance ⟨rfl, rfl, rfl⟩ (ih (m.runTimers elapsed).2)

/-- **The timers move by all the ticks together**, and the clock moves by all the times. -/
theorem Ticking.timers {ticks : List Int} (h : Ticking m times n)
    (hcounts : m.timers.counts times = ticks.map .ok) (hticks : ∀ count ∈ ticks, 0 ≤ count) :
    n.timers = m.timers.afterTimes times ∧
      n.core.registers.dt = Registers.timerAfter ticks.sum.toNat m.core.registers.dt ∧
      n.core.registers.st = Registers.timerAfter ticks.sum.toNat m.core.registers.st := by
  induction h generalizing ticks with
  | done hsame =>
    obtain rfl : ticks = [] := List.map_eq_nil_iff.1 hcounts.symm
    exact ⟨hsame.clock, hsame.delay.trans (Registers.timerAfter_zero _).symm,
      hsame.sound.trans (Registers.timerAfter_zero _).symm⟩
  | @advance m k n elapsed rest hsame _ ih =>
    obtain - | ⟨count, later⟩ := ticks
    · cases hcounts
    · obtain ⟨hcount, hlater⟩ := List.forall_mem_cons.1 hticks
      obtain ⟨hresult, hrest⟩ := List.cons.inj hcounts
      rcases hadvance : m.timers.advance elapsed with ⟨result, clock⟩
      rw [hadvance] at hresult hrest
      obtain rfl : result = .ok count := hresult
      rw [runTimers_of_ok (hsame.clock ▸ hadvance)] at ih
      obtain ⟨hclock, hdelay, hsound⟩ := ih hrest hlater
      have hsum : (count :: later).sum.toNat = count.toNat + later.sum.toNat := by
        rw [List.sum_cons, Int.toNat_add hcount (List.sum_nonneg hlater)]
      refine ⟨?_, ?_, ?_⟩
      · rw [hclock, TickClock.afterTimes_cons, hadvance]
      · rw [hdelay, hsum, Registers.timerAfter_add, ← hsame.delay]
        rfl
      · rw [hsound, hsum, Registers.timerAfter_add, ← hsame.sound]
        rfl

/-- A timer that is not below zero counts down to zero and no further. -/
theorem timerAfter_of_nonneg {count timer : Int} (hcount : 0 ≤ count) (htimer : 0 ≤ timer) :
    Registers.timerAfter count.toNat timer = max 0 (timer - count) := by
  unfold Registers.timerAfter
  omega

/-- **Timer ticks follow the total time.** A clock of any rate above zero that starts with nothing
pending answers every sequence of elapsed times with counts of ticks. They add up to the floor of
what the total time stands for, so another way to cut the same time gives the same total. After each
time, less than a tick is pending, and the ticks so far and what is pending make up the time so far.
And the timers that count down by these ticks, if nothing else touches them, end where the total
leads: a value that is not below zero down to zero and no further. (One below zero does not occur in
a machine, and would not move.) -/
theorem ticks_follow_time {c : TickClock ℚ} (hrate : 0 < c.rate) (hpending : c.pending = 0)
    {times : List ℚ} (htimes : ∀ e ∈ times, 0 ≤ e) :
    ∃ ticks : List ℤ, c.counts times = ticks.map .ok ∧
      ticks.sum = ⌊c.rate * times.sum⌋ ∧
      (∀ others : List ℚ, (∀ e ∈ others, 0 ≤ e) → others.sum = times.sum →
        ∃ counts : List ℤ, c.counts others = counts.map .ok ∧ counts.sum = ticks.sum) ∧
      (∀ k, 0 ≤ (c.afterTimes (times.take k)).pending ∧
        (c.afterTimes (times.take k)).pending < 1 / c.rate ∧
        (c.afterTimes (times.take k)).pending + ((ticks.take k).sum : ℤ) / c.rate =
          (times.take k).sum) ∧
      ∀ m n : Machine ℚ, m.timers = c → Ticking m times n →
        n.timers = c.afterTimes times ∧
        (0 ≤ m.core.registers.dt →
          n.core.registers.dt = max 0 (m.core.registers.dt - ticks.sum)) ∧
        (0 ≤ m.core.registers.st →
          n.core.registers.st = max 0 (m.core.registers.st - ticks.sum)) := by
  have hsettled : c.Settled := ⟨hpending.ge, hpending ▸ one_div_pos.2 hrate⟩
  have htotal (others : List ℚ) (hothers : ∀ e ∈ others, 0 ≤ e) {counts : List ℤ}
      (hcounts : c.counts others = counts.map .ok) : counts.sum = ⌊c.rate * others.sum⌋ := by
    rw [(TickClock.sum_counts hrate hsettled hothers hcounts).1, hpending, zero_add]
  obtain ⟨ticks, hcounts, hticks, hprefixes⟩ := TickClock.exists_counts hrate hsettled htimes
  refine ⟨ticks, hcounts, htotal times htimes hcounts, ?_, ?_, ?_⟩
  · intro others hothers hsum
    obtain ⟨counts, hothersCounts, -⟩ := TickClock.exists_counts hrate hsettled hothers
    refine ⟨counts, hothersCounts, ?_⟩
    rw [htotal others hothers hothersCounts, htotal times htimes hcounts, hsum]
  · intro k
    obtain ⟨pending, hafter, hsettled, hsum⟩ := hprefixes k
    rw [hafter]
    exact ⟨hsettled.nonneg, hsettled.lt, by rw [hsum, hpending, zero_add]⟩
  · intro m n hm hticking
    subst hm
    have hnonneg : 0 ≤ ticks.sum := List.sum_nonneg hticks
    obtain ⟨hclock, hdelay, hsound⟩ := hticking.timers hcounts hticks
    exact ⟨hclock, fun hdt ↦ hdelay.trans (timerAfter_of_nonneg hnonneg hdt),
      fun hst ↦ hsound.trans (timerAfter_of_nonneg hnonneg hst)⟩

/-- A machine whose timers run, one of them not for long. -/
def countdown : Machine ℚ :=
  let m := plugged (Renderer.fresh .headless 1 "") .headless Audio.silent 700 .absent ⟨#[], 0⟩ true
  { m with core := { m.core with registers := { m.core.registers with dt := 2, st := 200 } } }

/-- A short time, a longer one, none and a long one, given to the timers of that machine. -/
theorem ticks_follow_time_countdown :
    let times : List ℚ := [1 / 100, 1 / 25, 0, 1 / 16]
    let n := times.foldl (fun m elapsed ↦ (m.runTimers elapsed).2) countdown
    0 < countdown.timers.rate ∧ countdown.timers.pending = 0 ∧ (∀ e ∈ times, 0 ≤ e) ∧
      ∃ ticks : List ℤ, countdown.timers.counts times = ticks.map .ok ∧ ticks = [0, 3, 0, 3] ∧
        ticks.sum = ⌊60 * times.sum⌋ ∧ n.core.registers.dt = max 0 (2 - 6) ∧
        n.core.registers.st = max 0 (200 - 6) := by
  have htimes : ∀ e ∈ [1 / 100, 1 / 25, 0, (1 / 16 : ℚ)], 0 ≤ e := by decide +kernel
  obtain ⟨ticks, hcounts, hsum, -, -, htimers⟩ :=
    ticks_follow_time (c := countdown.timers) (by decide +kernel) (by decide +kernel) htimes
  have hticks : ticks = [0, 3, 0, 3] := by
    have hcounted : countdown.timers.counts [1 / 100, 1 / 25, 0, (1 / 16 : ℚ)] =
        [0, 3, 0, 3].map .ok := by decide +kernel
    exact List.map_injective_iff.2 (fun _ _ ↦ Except.ok.inj) (hcounts.symm.trans hcounted)
  obtain ⟨-, hdelay, hsound⟩ := htimers countdown _ rfl (ticking_foldl countdown _)
  subst hticks
  exact ⟨by decide +kernel, by decide +kernel, htimes, _, hcounts, rfl, hsum, hdelay (by decide),
    hsound (by decide)⟩

end Machine

end ChipEight
