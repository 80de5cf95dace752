import ChipEight.Host.Call
import ChipEight.Text.Uppercase

/-!
# The journal

A record, in order, of everything a running emulator does towards the outside: displays handed to
the renderer, changes of the buzzer, the calls to the host that these lead to, log records, lines
printed, titles, frames completed, pauses and devices shut down.

## Main definitions

* `Level`: how important a log record is.
* `Entry`: what can be recorded.
* `Journal`: the record.
-/

namespace ChipEight

/-- How important a log record is. -/
inductive Level
  | debug
  | info
  | warning
  | error
  | critical
  deriving DecidableEq, Repr

namespace Level

/-- The levels in ascending order of importance. -/
def rank : Level → Nat
  | debug => 1
  | info => 2
  | warning => 3
  | error => 4
  | critical => 5

/-- The name of a level in a log. -/
def name : Level → String
  | debug => "DEBUG"
  | info => "INFO"
  | warning => "WARNING"
  | error => "ERROR"
  | critical => "CRITICAL"

/-- The words that name levels in a setting. The lowest level has a second word that asks for
everything. -/
def words : List (String × Level) := [
  ("DEBUG", debug), ("NOTSET", debug), ("INFO", info), ("WARNING", warning), ("WARN", warning),
  ("ERROR", error), ("CRITICAL", critical), ("FATAL", critical)]

/-- The words of a log that name something other than a level. -/
def otherWords : List (String × LevelProblem) := [("BASIC_FORMAT", .form), ("_STYLES", .table)]

/-- The level that a word names, in either case. -/
def ofWord (text : String) : Except Failure Level :=
  let word := Uppercase.word text
  match words.lookup word with
  | some level => .ok level
  | none => .error (.level ((otherWords.lookup word).getD .unknown))

/-- The level that a setting asks for. A setting without a word asks for the usual level. -/
def ofSetting : Setting String → Except Failure Level
  | .absent | .blank | .given "" => .ok warning
  | .given text => ofWord text

/-- Whether a log that starts at one level shows records of another. -/
def shows (threshold level : Level) : Bool :=
  threshold.rank ≤ level.rank

end Level

/-- The devices of a session, by what they are for. -/
inductive DeviceRole
  | audio
  | inputs
  | renderer
  deriving DecidableEq, Repr

/-- Something done towards the outside. -/
inductive Entry (α : Type)
  /-- A call to the host. -/
  | call (c : HostCall)
  /-- A log record. -/
  | log (level : Level) (text : String)
  /-- A line printed. -/
  | line (text : String)
  /-- A title handed to the renderer. -/
  | title (text : String)
  /-- A display handed to the renderer. -/
  | display (pixels : Array Bool)
  /-- The buzzer turned on or off. -/
  | buzzer (enabled : Bool)
  /-- A frame completed, which made up for an elapsed time. -/
  | frame (elapsed : α)
  /-- A pause. -/
  | pause (seconds : α)
  /-- A device shut down. -/
  | shutdown (role : DeviceRole)

/-- What was done towards the outside, in order. -/
abbrev Journal (α : Type) := Array (Entry α)

namespace Journal

variable {α : Type}

/-- The journal of calls alone. -/
def ofCalls (calls : List HostCall) : Journal α :=
  (calls.map Entry.call).toArray

/-- The calls recorded. -/
def calls (j : Journal α) : List HostCall :=
  j.toList.filterMap fun entry ↦
    match entry with
    | .call c => some c
    | _ => none

/-- The log records at or above a level. -/
def records (j : Journal α) (threshold : Level) : List (Level × String) :=
  j.toList.filterMap fun entry ↦
    match entry with
    | .log level text => if threshold.shows level then some (level, text) else none
    | _ => none

/-- The lines printed. -/
def lines (j : Journal α) : List String :=
  j.toList.filterMap fun entry ↦
    match entry with
    | .line text => some text
    | _ => none

/-- The titles handed to the renderer. -/
def titles (j : Journal α) : List String :=
  j.toList.filterMap fun entry ↦
    match entry with
    | .title text => some text
    | _ => none

/-- The pixels of the displays handed to the renderer. -/
def displays (j : Journal α) : List (Array Bool) :=
  j.toList.filterMap fun entry ↦
    match entry with
    | .display pixels => some pixels
    | _ => none

/-- The changes of the buzzer. -/
def buzzers (j : Journal α) : List Bool :=
  j.toList.filterMap fun entry ↦
    match entry with
    | .buzzer enabled => some enabled
    | _ => none

/-- The elapsed times of the frames completed. -/
def frames (j : Journal α) : List α :=
  j.toList.filterMap fun entry ↦
    match entry with
    | .frame elapsed => some elapsed
    | _ => none

/-- The pauses. -/
def pauses (j : Journal α) : List α :=
  j.toList.filterMap fun entry ↦
    match entry with
    | .pause seconds => some seconds
    | _ => none

/-- The devices shut down. -/
def shutdowns (j : Journal α) : List DeviceRole :=
  j.toList.filterMap fun entry ↦
    match entry with
    | .shutdown role => some role
    | _ => none

end Journal

end ChipEight
