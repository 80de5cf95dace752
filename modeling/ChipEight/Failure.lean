import ChipEight.Fault

/-!
# Failures

Everything that can end an operation early. A machine fault is one kind of failure. The others are
misuse of a component from outside (a value that is no byte, a length below zero), arithmetic that
has no result, and settings that the host cannot use. Only machine faults and bad settings have a
message of their own.

## Main definitions

* `Failure`: the failures, by cause.
* `Failure.message?`: the text of a failure, where it has one.
-/

namespace ChipEight

/-- What can be wrong with the text of a keymap. -/
inductive KeymapProblem
  | wrongCount
  | notWhole
  | duplicate
  deriving DecidableEq, Repr

/-- The text of a problem with a keymap. -/
def KeymapProblem.message : KeymapProblem → String
  | .wrongCount =>
    "Incorrect number of keys defined -- 16 required.  Use commas to split numbers"
  | .notWhole => "Defined keys are not all integer values"
  | .duplicate => "Duplicate keys defined"

/-- What can be wrong with the text of a palette. -/
inductive PaletteProblem
  | tooMany
  | wrongLength
  | notHexadecimal
  deriving DecidableEq, Repr

/-- The text of a problem with a palette. -/
def PaletteProblem.message : PaletteProblem → String
  | .tooMany => "Too many palette colours defined.  Only background and foreground are used."
  | .wrongLength => "Palette colours must all be 6 hex digits long."
  | .notHexadecimal => "Invalid palette colour defined."

/-- Why no host can be chosen. -/
inductive HostProblem
  | noWindow
  | noTerminal
  | neither
  deriving DecidableEq, Repr

/-- The text of a problem with the choice of a host. -/
def HostProblem.message : HostProblem → String
  | .noWindow => "PyGame does not appear to be installed."
  | .noTerminal => "Curses (or Windows-Curses) does not appear to be installed."
  | .neither => "Neither PyGame nor Curses (or Windows-Curses) appear to be installed."

/-- What can be wrong with the word for a log level. -/
inductive LevelProblem
  /-- A word that a log does not know. -/
  | unknown
  /-- The word for the form of log records. -/
  | form
  /-- The word for the table of such forms. -/
  | table
  deriving DecidableEq, Repr

/-- The failures, by cause. -/
inductive Failure
  /-- A fault of the machine. -/
  | fault (f : Fault)
  /-- A value outside 0 to 255 put where a byte belongs. -/
  | notAByte (value : Int)
  /-- A block of a length below zero. -/
  | negativeLength (length : Int)
  /-- A picture that does not have the size it was prepared for. -/
  | lengthMismatch
  /-- A division by zero. -/
  | zeroDivisor
  /-- A number that is too large for its form. -/
  | tooLarge
  /-- A block that no memory holds. -/
  | outOfMemory
  /-- A whole part asked of something that is not a number. -/
  | notANumber
  /-- A code that no character has. -/
  | noCharacter (code : Int)
  /-- A character whose lower-case form has two characters. -/
  | twoCharacters (code : Int)
  /-- A clock speed of zero or below. -/
  | clockSpeed
  /-- A setting left blank where a number belongs. -/
  | blankNumber
  /-- A setting left blank where a text belongs. -/
  | blankText
  /-- A log level that cannot be used. -/
  | level (problem : LevelProblem)
  /-- A keymap that cannot be used. -/
  | keymap (problem : KeymapProblem)
  /-- A palette that cannot be used. -/
  | palette (problem : PaletteProblem)
  /-- A choice of host that cannot be met. -/
  | host (problem : HostProblem)
  /-- A terminal that refuses to change its cursor. -/
  | cursorRefused
  /-- A cursor mode that is no number. -/
  | noCursorMode
  /-- A program file that is not there. -/
  | noSuchFile
  deriving DecidableEq, Repr

/-- The text of a failure, for those that have a message of their own. -/
def Failure.message? : Failure → Option String
  | .fault f => some f.message
  | .clockSpeed => some "Clock speed must be a positive number of operations per second"
  | .keymap problem => some problem.message
  | .palette problem => some problem.message
  | .host problem => some problem.message
  | _ => none

end ChipEight
