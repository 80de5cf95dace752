import ChipEight.Pacing
import ChipEight.Proofs.TimeNumber.Exact
import Mathlib.Tactic.Linarith

/-!
# The accounts of time, exactly

Over exact time both accounts obey one law. The tick clock and the cycle budget each hold an amount
that is not yet whole; an elapsed time adds to it, the floor of the sum is paid out, and the
fractional part is kept (`advance_exact`, `grant_exact`). The clock keeps its amount as seconds, so
what it keeps is divided by its rate.

After it has paid out, less than one tick or cycle is left in an account (a clock is then
`Settled`). What was in it and what came is what was paid out and what is left, so over many
payments the amounts left over cancel, and the payments add up to the floor of the total
(`sum_counts`).
-/

namespace ChipEight

variable {elapsed : ℚ}

/-- A whole number that a total exceeds by less than one is the floor of the total. -/
theorem eq_floor_of_rest {paid : ℤ} {rest total : ℚ} (h : rest + paid = total) (hnonneg : 0 ≤ rest)
    (hlt : rest < 1) : paid = ⌊total⌋ := by
  symm
  rw [Int.floor_eq_iff]
  constructor <;> linarith

/-! ### Ticks -/

namespace TickClock

variable {c : TickClock ℚ}

/-- Less than a whole tick is pending. -/
structure Settled (c : TickClock ℚ) : Prop where
  nonneg : 0 ≤ c.pending
  lt : c.pending < 1 / c.rate

/-- A count of ticks that a total time exceeds by less than a tick is the floor of the ticks that
the time stands for. -/
theorem Settled.eq_floor (h : c.Settled) (hrate : 0 < c.rate) {count : ℤ} {total : ℚ}
    (htotal : c.pending + count / c.rate = total) : count = ⌊c.rate * total⌋ := by
  have hrest : c.rate * c.pending + count = c.rate * total := by
    rw [← htotal, mul_add, mul_div_cancel₀ _ hrate.ne']
  refine eq_floor_of_rest hrest (mul_nonneg hrate.le h.nonneg) ?_
  calc c.rate * c.pending < c.rate * (1 / c.rate) := mul_lt_mul_of_pos_left h.lt hrate
    _ = 1 := mul_one_div_cancel hrate.ne'

theorem split_exact (hrate : 0 < c.rate) (hpending : 0 ≤ c.pending) :
    c.split = .ok (⌊c.pending * c.rate⌋, Int.fract (c.pending * c.rate) / c.rate) := by
  have hrest : c.pending - ⌊c.pending * c.rate⌋ / c.rate =
      Int.fract (c.pending * c.rate) / c.rate := by
    rw [Int.fract, sub_div, mul_div_cancel_right₀ _ hrate.ne']
  have hmul : TimeNumber.mul c.pending c.rate = .ok (c.pending * c.rate) := rfl
  have hdiv : TimeNumber.div (TimeNumber.ofInt ⌊c.pending * c.rate⌋) c.rate = .ok _ :=
    TimeNumber.div_exact hrate.ne'
  unfold split
  dsimp only [bind, Except.bind]
  rw [hmul]
  dsimp only
  rw [TimeNumber.whole_exact (mul_nonneg hpending hrate.le)]
  dsimp only
  rw [hdiv, ← hrest]
  rfl

/-- **The ticks of an elapsed time** are the whole ones among those due, and the clock keeps the
rest. -/
theorem advance_exact (hrate : 0 < c.rate) (hpending : 0 ≤ c.pending) (helapsed : 0 ≤ elapsed) :
    c.advance elapsed = (.ok ⌊(c.pending + elapsed) * c.rate⌋,
      { c with pending := Int.fract ((c.pending + elapsed) * c.rate) / c.rate }) := by
  have hadd : TimeNumber.add c.pending elapsed = .ok (c.pending + elapsed) := rfl
  have hsplit : { c with pending := c.pending + elapsed }.split = _ :=
    split_exact hrate (add_nonneg hpending helapsed)
  unfold advance
  rw [hadd]
  dsimp only
  rw [hsplit]

/-- Over exact time, a clock of any rate but zero answers every elapsed time. -/
theorem exists_advance (hrate : c.rate ≠ 0) (elapsed : ℚ) :
    ∃ count clock, c.advance elapsed = (.ok count, clock) := by
  have hdiv (count : ℤ) : TimeNumber.div (TimeNumber.ofInt count) c.rate = .ok _ :=
    TimeNumber.div_exact hrate
  unfold advance split
  dsimp only [bind, Except.bind, TimeNumber.add, TimeNumber.mul, TimeNumber.whole, TimeNumber.sub]
  rw [hdiv]
  exact ⟨_, _, rfl⟩

/-- What the ticks of an elapsed time stand for and what stays pending make up what was pending and
what has elapsed. -/
theorem advance_settled (hrate : 0 < c.rate) (hpending : 0 ≤ c.pending) (helapsed : 0 ≤ elapsed) :
    ∃ (ticks : ℤ) (pending : ℚ),
      c.advance elapsed = (.ok ticks, { c with pending }) ∧
      0 ≤ ticks ∧ Settled { c with pending } ∧ pending + ticks / c.rate = c.pending + elapsed := by
  have hdue : 0 ≤ (c.pending + elapsed) * c.rate :=
    mul_nonneg (add_nonneg hpending helapsed) hrate.le
  refine ⟨_, _, advance_exact hrate hpending helapsed, Int.floor_nonneg.2 hdue, ⟨?_, ?_⟩, ?_⟩
  · exact div_nonneg (Int.fract_nonneg _) hrate.le
  · exact div_lt_div_of_pos_right (Int.fract_lt_one _) hrate
  · rw [← add_div, Int.fract_add_floor, mul_div_cancel_right₀ _ hrate.ne']

/-! ### Ticks of many times -/

section Runs

variable {α : Type} [TimeNumber α]

/-- What a clock answers to elapsed times that it is given in turn. -/
def counts (c : TickClock α) : List α → List (Except Failure Int)
  | [] => []
  | elapsed :: rest => (c.advance elapsed).1 :: (c.advance elapsed).2.counts rest

/-- The clock after elapsed times in turn. -/
def afterTimes (c : TickClock α) (times : List α) : TickClock α :=
  times.foldl (fun c elapsed ↦ (c.advance elapsed).2) c

theorem afterTimes_cons (c : TickClock α) (elapsed : α) (rest : List α) :
    c.afterTimes (elapsed :: rest) = (c.advance elapsed).2.afterTimes rest := rfl

theorem afterTimes_append (c : TickClock α) (times later : List α) :
    c.afterTimes (times ++ later) = (c.afterTimes times).afterTimes later :=
  List.foldl_append ..

/-- What a clock answers to later times, it answers from where the earlier ones left it. -/
theorem counts_append (c : TickClock α) (times later : List α) :
    c.counts (times ++ later) = c.counts times ++ (c.afterTimes times).counts later := by
  induction times generalizing c with
  | nil => rfl
  | cons elapsed rest ih => exact congrArg ((c.advance elapsed).1 :: ·) (ih (c.advance elapsed).2)

end Runs

variable {times : List ℚ}

/-- **Ticks of many times.** After each of the times the clock is settled, and the ticks so far and
what is pending make up what was pending at first and the time so far. -/
theorem exists_counts (hrate : 0 < c.rate) (h : c.Settled) (htimes : ∀ e ∈ times, 0 ≤ e) :
    ∃ ticks : List ℤ, c.counts times = ticks.map .ok ∧ (∀ count ∈ ticks, 0 ≤ count) ∧
      ∀ k, ∃ pending : ℚ, c.afterTimes (times.take k) = { c with pending } ∧
        Settled { c with pending } ∧
        pending + ((ticks.take k).sum : ℤ) / c.rate = c.pending + (times.take k).sum := by
  induction times generalizing c with
  | nil =>
    refine ⟨[], rfl, by simp, fun k ↦ ⟨c.pending, ?_, h, ?_⟩⟩
    · rw [List.take_nil]
      rfl
    · simp
  | cons elapsed rest ih =>
    obtain ⟨count, pending, hadvance, hcount, hsettled, htotal⟩ :=
      advance_settled hrate h.nonneg (htimes elapsed List.mem_cons_self)
    obtain ⟨ticks, hcounts, hticks, hprefixes⟩ := ih (c := { c with pending }) hrate hsettled
      fun e he ↦ htimes e (List.mem_cons_of_mem elapsed he)
    refine ⟨count :: ticks, ?_, ?_, fun k ↦ ?_⟩
    · rw [counts, hadvance, hcounts, List.map_cons]
    · exact List.forall_mem_cons.2 ⟨hcount, hticks⟩
    · rcases k with - | k
      · exact ⟨c.pending, rfl, h, by simp⟩
      · obtain ⟨later, hafter, hlater, hsum⟩ := hprefixes k
        refine ⟨later, ?_, hlater, ?_⟩
        · rw [List.take_succ_cons, afterTimes_cons, hadvance]
          exact hafter
        · rw [List.take_succ_cons, List.take_succ_cons, List.sum_cons, List.sum_cons, ← add_assoc,
            ← htotal, Int.cast_add, add_div]
          dsimp only at hsum
          linarith

/-- **The ticks add up** to the floor of those that the whole time stands for, and none of the
counts is below zero. -/
theorem sum_counts (hrate : 0 < c.rate) (h : c.Settled) (htimes : ∀ e ∈ times, 0 ≤ e)
    {ticks : List ℤ} (hticks : c.counts times = ticks.map .ok) :
    ticks.sum = ⌊c.rate * (c.pending + times.sum)⌋ ∧ ∀ count ∈ ticks, 0 ≤ count := by
  obtain ⟨counted, hcounts, hnonneg, hprefixes⟩ := exists_counts hrate h htimes
  obtain rfl : counted = ticks :=
    List.map_injective_iff.2 (fun _ _ ↦ Except.ok.inj) (hcounts.symm.trans hticks)
  obtain ⟨pending, -, hsettled, hsum⟩ := hprefixes (counted.length + times.length)
  rw [List.take_of_length_le (Nat.le_add_right _ _),
    List.take_of_length_le (Nat.le_add_left _ _)] at hsum
  exact ⟨hsettled.eq_floor hrate hsum, hnonneg⟩

/-- Counts that are not below zero add up to as many ticks. -/
theorem sum_toNat {counts : List ℤ} (h : ∀ count ∈ counts, 0 ≤ count) :
    ((counts.map Int.toNat).sum : ℤ) = counts.sum := by
  induction counts with
  | nil => rfl
  | cons count rest ih =>
    obtain ⟨hcount, hrest⟩ := List.forall_mem_cons.1 h
    rw [List.map_cons, List.sum_cons, List.sum_cons, Nat.cast_add, ih hrest,
      Int.toNat_of_nonneg hcount]

end TickClock

/-! ### Cycles -/

namespace CycleBudget

variable {b : CycleBudget ℚ}

/-- **The cycles of an elapsed time** are the whole ones among those due, and the budget keeps the
rest. -/
theorem grant_exact (hdue : 0 ≤ b.credit + elapsed * b.speed) :
    b.grant elapsed = (.ok ⌊b.credit + elapsed * b.speed⌋,
      { b with credit := Int.fract (b.credit + elapsed * b.speed) }) := by
  have hsplit : { b with credit := b.credit + elapsed * b.speed }.split =
      .ok (⌊b.credit + elapsed * b.speed⌋, Int.fract (b.credit + elapsed * b.speed)) := by
    unfold split
    rw [TimeNumber.whole_exact hdue]
    rfl
  have hadd : TimeNumber.mul elapsed b.speed >>= TimeNumber.add b.credit =
      .ok (b.credit + elapsed * b.speed) := rfl
  unfold grant
  rw [hadd]
  dsimp only
  rw [hsplit]

/-- The cycles of an elapsed time and the credit that stays make up the credit before and the cycles
that the time stands for. Less than a whole cycle stays. -/
theorem grant_settled (hspeed : 0 ≤ b.speed) (hcredit : 0 ≤ b.credit) (helapsed : 0 ≤ elapsed) :
    ∃ (cycles : ℤ) (credit : ℚ), b.grant elapsed = (.ok cycles, { b with credit }) ∧
      0 ≤ cycles ∧ 0 ≤ credit ∧ credit < 1 ∧ credit + cycles = b.credit + elapsed * b.speed := by
  have hdue : 0 ≤ b.credit + elapsed * b.speed := add_nonneg hcredit (mul_nonneg helapsed hspeed)
  exact ⟨_, _, grant_exact hdue, Int.floor_nonneg.2 hdue, Int.fract_nonneg _, Int.fract_lt_one _,
    Int.fract_add_floor _⟩

end CycleBudget

end ChipEight
