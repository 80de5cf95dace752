import ChipEight.Registers
import ChipEight.TimeNumber

/-!
# Pacing

Elapsed time is turned into whole ticks of the timers and whole cycles of the processor, and what
is left over is kept for the next time. The two accounts keep their remainder in different units:
the tick clock keeps seconds, the cycle budget keeps cycles.

The parts of an account that were computed before a failure stay: a time that was added remains
added when the number of ticks it covers cannot be found.

## Main definitions

* `TickClock.advance`: the ticks that an elapsed time brings.
* `CycleBudget.grant`: the cycles that an elapsed time allows.
-/

namespace ChipEight

variable {α : Type} [TimeNumber α]

/-- An account of the time that has not yet become ticks. -/
structure TickClock (α : Type) where
  /-- Ticks per second. -/
  rate : α
  /-- Seconds that have not yet become ticks. -/
  pending : α

namespace TickClock

/-- A clock of a given rate with nothing pending. -/
def start (rate : α) : TickClock α :=
  ⟨rate, TimeNumber.zero⟩

/-- The clock of the machine's timers, sixty ticks a second. -/
def ofTimers : TickClock α :=
  start (TimeNumber.ratio 60 1)

/-- Forgets the time pending. -/
def reset (c : TickClock α) : TickClock α :=
  start c.rate

/-- The number of whole ticks in the time pending, and the time left without them. -/
def split (c : TickClock α) : Except Failure (Int × α) := do
  let ticks ← TimeNumber.whole (← TimeNumber.mul c.pending c.rate)
  let rest ← TimeNumber.sub c.pending (← TimeNumber.div (TimeNumber.ofInt ticks) c.rate)
  return (ticks, rest)

/-- Adds an elapsed time and takes out the whole ticks it completes. Their number is below zero
when time runs backwards. -/
def advance (c : TickClock α) (elapsed : α) : Except Failure Int × TickClock α :=
  match TimeNumber.add c.pending elapsed with
  | .error failure => (.error failure, c)
  | .ok pending =>
    let c := { c with pending }
    match c.split with
    | .error failure => (.error failure, c)
    | .ok (ticks, rest) => (.ok ticks, { c with pending := rest })

end TickClock

/-- An account of the cycles that the processor may still execute. -/
structure CycleBudget (α : Type) where
  /-- Cycles per second. -/
  speed : α
  /-- Cycles that have not yet become whole. -/
  credit : α

namespace CycleBudget

/-- A budget of a given speed without credit. -/
def start (speed : α) : CycleBudget α :=
  ⟨speed, TimeNumber.zero⟩

/-- Forgets the credit. -/
def forfeit (b : CycleBudget α) : CycleBudget α :=
  start b.speed

/-- The number of whole cycles in the credit, and the credit left without them. -/
def split (b : CycleBudget α) : Except Failure (Int × α) := do
  let cycles ← TimeNumber.whole b.credit
  let rest ← TimeNumber.sub b.credit (TimeNumber.ofInt cycles)
  return (cycles, rest)

/-- Adds the cycles of an elapsed time and takes out the whole ones. -/
def grant (b : CycleBudget α) (elapsed : α) : Except Failure Int × CycleBudget α :=
  match TimeNumber.mul elapsed b.speed >>= TimeNumber.add b.credit with
  | .error failure => (.error failure, b)
  | .ok credit =>
    let b := { b with credit }
    match b.split with
    | .error failure => (.error failure, b)
    | .ok (cycles, rest) => (.ok cycles, { b with credit := rest })

end CycleBudget

end ChipEight
