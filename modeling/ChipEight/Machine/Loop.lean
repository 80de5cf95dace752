import ChipEight.Machine

/-!
# The host loop

A machine runs frame after frame until the host asks to quit or a frame fails. The loop reads a
clock twice in each round: at its head, from which the elapsed time of the frame is counted, and at
its end, to sleep off what is left of a sixtieth of a second. The time at the head also decides
whether the performance report of the second is due.

The clock is a parameter. Any source of readings is a clock, also one that ignores pauses, so what
holds for every clock holds for the real one. A clock may fail to yield a reading, which ends the
loop.

## Main definitions

* `Clock`: a source of readings.
* `Loop.iterate`: one round.
* `Loop.run`: rounds up to the end of the loop or a given number of them.
* `Metronome`: a clock that moves by a fixed amount at each reading.
-/

namespace ChipEight

variable {α : Type} [TimeNumber α] {σ : Type}

/-- A source of readings with states in `σ`. -/
structure Clock (σ α : Type) where
  /-- A reading and the state after it. -/
  read : σ → Except Failure (α × σ)
  /-- The time without a reading being taken. -/
  look : σ → α
  /-- The state after a pause. -/
  pause : α → σ → Except Failure σ

/-- A machine in the host loop. -/
structure Loop (σ α : Type) where
  /-- The machine. -/
  machine : Machine α
  /-- The state of the clock. -/
  clock : σ
  /-- The time at the head of the last round. -/
  last : α
  /-- The events of the coming polls; the host asks to quit when none are left. -/
  polls : List (List HostEvent)

namespace Machine

/-- The length of a round, a sixtieth of a second. -/
def frameTime : α := TimeNumber.ratio 1 60

/-- The whole second after a time. -/
def secondAfter (time : α) : Except Failure α := do
  let second ← TimeNumber.whole time
  TimeNumber.add (TimeNumber.ofInt second) (TimeNumber.ratio 1 1)

/-- Reports the performance since the last report, if a report is due, and makes the next one due
at the next whole second. -/
def reportDue (m : Machine α) (time : α) : Except Failure Unit × Machine α :=
  if TimeNumber.le m.nextReport time then
    match secondAfter time with
    | .error failure => (.error failure, m)
    | .ok nextReport =>
      match { m with nextReport }.report m.framesShown m.operations with
      | (.error failure, m) => (.error failure, m)
      | (.ok (), m) => (.ok (), { m with framesShown := 0, operations := 0 })
  else (.ok (), m)

/-- The head of a round: the report, if it is due, and the frame. -/
def runRound (m : Machine α) (last time : α) (events : List HostEvent) (now : α) :
    Except Failure Bool × Machine α :=
  match m.reportDue time with
  | (.error failure, m) => (.error failure, m)
  | (.ok (), m) =>
    match TimeNumber.sub time last with
    | .error failure => (.error failure, m)
    | .ok elapsed => m.runFrame elapsed events now

/-- What is left of a round at some time, if anything is. -/
def timeLeft? (start time : α) : Except Failure (Option α) := do
  let rest ← TimeNumber.sub (← TimeNumber.add start frameTime) time
  return if TimeNumber.lt (TimeNumber.ofInt 0) rest then some rest else none

/-- The text that logs the end of the loop. -/
def quitText : String := "Quit requested by host"

end Machine

namespace Loop

/-- The loop in front of its first round. The reading taken here is the one that the first frame
counts its elapsed time from. -/
def start (clock : Clock σ α) (machine : Machine α) (state : σ)
    (polls : List (List HostEvent)) : Except Failure (Loop σ α) := do
  let (last, state) ← clock.read state
  return ⟨machine, state, last, polls⟩

/-- The events of the coming poll. -/
def events (l : Loop σ α) : List HostEvent :=
  l.polls.headD [.quit]

/-- The end of a round whose frame was completed: sleeps off what is left of it, given the time at
its head. Yields the failure if the loop ends here. -/
def rest (clock : Clock σ α) (time : α) (l : Loop σ α) : Except Failure Unit × Loop σ α :=
  match clock.read l.clock with
  | .error failure => (.error failure, l)
  | .ok (after, state) =>
    let l := { l with clock := state, last := time }
    match Machine.timeLeft? time after with
    | .error failure => (.error failure, l)
    | .ok none => (.ok (), l)
    | .ok (some left) =>
      let l := { l with machine := l.machine.record (.pause left) }
      match clock.pause left l.clock with
      | .error failure => (.error failure, l)
      | .ok state => (.ok (), { l with clock := state })

/-- One round whose head is at some time. Yields the result of the whole loop if the loop ends with
this round. -/
def round (clock : Clock σ α) (time : α) (l : Loop σ α) :
    Option (Except Failure Unit) × Loop σ α :=
  let (result, machine) := l.machine.runRound l.last time l.events (clock.look l.clock)
  let l := { l with machine, polls := l.polls.tail }
  match result with
  | .error failure => (some (.error failure), l)
  | .ok false =>
    (some (.ok ()), { l with machine := machine.record (.log .info Machine.quitText) })
  | .ok true =>
    match l.rest clock time with
    | (.error failure, l) => (some (.error failure), l)
    | (.ok (), l) => (none, l)

/-- Takes the reading at the head of a round and runs the round. -/
def iterate (clock : Clock σ α) (l : Loop σ α) : Option (Except Failure Unit) × Loop σ α :=
  match clock.read l.clock with
  | .error failure => (some (.error failure), l)
  | .ok (time, state) => { l with clock := state }.round clock time

/-- Runs rounds until the loop ends, at most a given number of them. Yields the result of the loop
if it ends within that number. -/
def run (clock : Clock σ α) : Nat → Loop σ α → Option (Except Failure Unit) × Loop σ α
  | 0, l => (none, l)
  | rounds + 1, l =>
    match l.iterate clock with
    | (some result, l) => (some result, l)
    | (none, l) => run clock rounds l

end Loop

/-- A clock that moves by a fixed amount at each reading, and by the length of each pause. -/
structure Metronome (α : Type) where
  /-- The time. -/
  now : α
  /-- How far a reading moves the clock. -/
  tick : α

namespace Metronome

/-- The readings of a metronome. One that would move it to a time that has no number fails. -/
def clock : Clock (Metronome α) α where
  read m := do return (m.now, { m with now := ← TimeNumber.add m.now m.tick })
  look m := m.now
  pause seconds m := do return { m with now := ← TimeNumber.add m.now seconds }

end Metronome

end ChipEight
