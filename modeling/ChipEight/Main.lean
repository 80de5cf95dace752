import ChipEight.Startup.CommandLine
import ChipEight.Startup.Session
import ChipEight.TimeNumber.Scalar

/-!
# The program

The program itself: it reads its command line, runs a session by the real clock and carries out what
the session records. It has neither a window nor a terminal library at hand, so it runs programs
headless and refuses the other renderers. Without a quit request from a host, a session goes on
until the running program faults.

Everything that decides anything lies in the modules below this one, where it is a pure function.
What is left here are reading the file, the clock, pausing and printing.
-/

namespace ChipEight.Program

/-- The host that the program runs on. -/
def host : HostFacts :=
  ⟨⟨false, false⟩, ⟨[], false, TerminalHost.refusal fun _ ↦ false⟩⟩

/-- The clock in seconds. -/
def now : IO Scalar := do
  return .real ((← IO.monoNanosNow).toFloat / 1000000000.0)

/-- Pauses for a number of seconds. -/
def pause (seconds : Scalar) : IO Unit := do
  match seconds.toFloat with
  | .ok x => IO.sleep (x * 1000.0).toUInt32
  | .error _ => return

/-- Carries out one entry of a journal: lines go to the output, log records from a level on to the
error output. -/
def publish (threshold : Level) : Entry Scalar → IO Unit
  | .line text => IO.println text
  | .log level text => do
    if threshold.shows level then IO.eprintln (level.name ++ ": " ++ text)
  | .call _ | .title _ | .display _ | .buzzer _ | .frame _ | .pause _ | .shutdown _ => return

/-- Carries out what a machine recorded, and the machine without it. -/
def publishAll (threshold : Level) (m : Machine Scalar) : IO (Machine Scalar) := do
  m.journal.forM (publish threshold)
  return { m with journal := #[] }

/-- Runs rounds until the host asks to quit or one of them fails. -/
partial def rounds (threshold : Level) (m : Machine Scalar) (last : Scalar) :
    IO (Except Failure Unit × Machine Scalar) := do
  let time ← now
  let (result, m) := m.runRound last time [] time
  let m ← publishAll threshold m
  match result with
  | .error failure => return (.error failure, m)
  | .ok false => return (.ok (), m.record (.log .info Machine.quitText))
  | .ok true =>
    match Machine.timeLeft? time (← now) with
    | .error failure => return (.error failure, m)
    | .ok none => rounds threshold m time
    | .ok (some rest) =>
      pause rest
      rounds threshold m time

/-- Ends a session whose body has some result. -/
def close (threshold : Level) (stage : Stage Scalar) (result : Except Failure Unit) :
    IO (Except Failure Unit) := do
  let (result, stage) := stage.close Denial.never .error result
  stage.journal.forM (publish threshold)
  return result

/-- Runs a session: its result once everything it recorded has been carried out. -/
def run (settings : Settings Scalar) (program? : Option (List UInt8)) : IO (Except Failure Unit) := do
  match settings.level with
  | .error failure => return .error failure
  | .ok level =>
    match Session.enter Denial.never settings program? host with
    | (.error failure, journal) =>
      journal.forM (publish level)
      return .error failure
    | (.ok (program, choice, renderer), journal) =>
      match Session.equip Denial.never settings choice renderer journal with
      | (.error failure, stage) => close level stage (.error failure)
      | (.ok (inputs, audio), stage) =>
        match Session.startMachine settings program renderer inputs audio with
        | .error (failure, made) =>
          close level { stage with journal := stage.journal ++ made } (.error failure)
        | .ok m =>
          stage.journal.forM (publish level)
          let m ← publishAll level m
          let (result, m) ← rounds level m (← now)
          close level { stage with journal := m.journal } result

/-- The bytes of a file, if it can be read. -/
def readFile? (filename : String) : IO (Option (List UInt8)) := do
  try
    return some (← IO.FS.readBinFile filename).toList
  catch _ =>
    return none

/-- The text of a failure that ends the program. -/
def failureText (filename : String) : Failure → String
  | .noSuchFile => "No such file: " ++ filename
  | failure => failure.message?.getD "The session cannot go on"

/-- How the program is used. -/
def usageText : String :=
  "usage: chip-eight [options] filename\noptions: " ++
    ", ".intercalate (CommandOption.spellings.map Prod.fst)

/-- The settings with a seed drawn by chance, if none was given. -/
def seeded (settings : Settings Scalar) : IO (Settings Scalar) := do
  match settings.seed with
  | .absent => return { settings with seed := .given (Int.ofNat (← IO.rand 0 0xFFFFFFFF)) }
  | .blank | .given _ => return settings

/-- Runs a session as a command line asks for, and the code to exit with. -/
def runSettings (c : CommandSettings) : IO UInt32 := do
  let settings ← seeded (c.settings Scalar.whole)
  match ← run settings (← readFile? c.filename) with
  | .ok () => return 0
  | .error failure =>
    IO.eprintln (failureText c.filename failure)
    return 1

end ChipEight.Program

/-- Runs the program. Help exits with zero, a failed session with one and a mistake on the command
line with two. -/
def main (arguments : List String) : IO UInt32 := do
  match ChipEight.CommandLine.parse arguments with
  | .ok c => ChipEight.Program.runSettings c
  | .error .help =>
    IO.println ChipEight.Program.usageText
    return 0
  | .error (.problem p) =>
    IO.eprintln (ChipEight.Program.usageText ++ "\nerror: " ++ p.message)
    return 2
