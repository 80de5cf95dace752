/-!
# The options of the command line

The options that a command line can hold, how they are spelled and which values they take.

## Main definitions

* `CommandOption`: the options.
* `CommandOption.spellings`: every spelling with its option, in the order in which they are listed
  to the user.
-/

namespace ChipEight

/-- The options of the command line. -/
inductive CommandOption
  | help
  | clockSpeed
  | renderer
  | scale
  | mute
  | keymap
  | seed
  | cursorMode
  | palette
  | logLevel
  | debug
  deriving DecidableEq, Repr

namespace CommandOption

/-- Every spelling with its option. -/
def spellings : List (String × CommandOption) := [
  ("-h", help), ("--help", help),
  ("-c", clockSpeed), ("--clock_speed", clockSpeed),
  ("-r", renderer), ("--renderer", renderer),
  ("-s", scale), ("--scale", scale),
  ("-m", mute), ("--mute", mute),
  ("-k", keymap), ("--keymap", keymap),
  ("--seed", seed),
  ("--curses_cursor_mode", cursorMode),
  ("--pygame_palette", palette),
  ("--log_level", logLevel),
  ("-d", debug), ("--debug", debug)]

/-- The option of a spelling. -/
def ofSpelling? (text : String) : Option CommandOption :=
  (spellings.find? fun entry ↦ entry.1 == text).map Prod.snd

/-- The name of an option in messages: its spellings. -/
def displayName (o : CommandOption) : String :=
  "/".intercalate ((spellings.filter fun entry ↦ entry.2 == o).map Prod.fst)

/-- Whether an option takes a value. The others are flags. -/
def takesValue : CommandOption → Bool
  | help | debug => false
  | _ => true

/-- The renderers that can be asked for. -/
def rendererWords : List String := ["pygame", "curses", "null"]

/-- The log levels that can be asked for. -/
def levelWords : List String := ["debug", "info", "warning", "error"]

/-- The values of the option for silence. -/
def muteNumbers : List Int := [0, 1]

/-- The values of the option for the cursor. -/
def cursorNumbers : List Int := [0, 1, 2]

end CommandOption

end ChipEight
