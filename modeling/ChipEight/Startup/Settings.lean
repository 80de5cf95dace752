import ChipEight.Host.Journal
import ChipEight.Host.Keymap
import ChipEight.Startup.CommandOption

/-!
# Settings

What a session can be told: as given on a command line (`CommandSettings`), where every setting has
a definite form, and as a session takes them (`Settings`), where a setting that is absent stands
for its usual value.

The level of the log is kept as a word, since a session may be asked for a level that no log has.
-/

namespace ChipEight

/-- The settings of a session. -/
structure Settings (α : Type) where
  /-- Instructions a second. -/
  clockSpeed : Setting α
  /-- The renderer asked for. -/
  renderer : Option String
  /-- The scale of the renderer. -/
  scale : Setting Int
  /-- Whether silence is asked for. -/
  mute : Option Bool
  /-- The keymap. -/
  keymap : Setting String
  /-- The seed of the random bytes. -/
  seed : Setting Int
  /-- How a terminal's cursor shows. -/
  cursorMode : Setting Int
  /-- The colours of a window. -/
  palette : Setting String
  /-- The word for the level from which records are logged. -/
  logLevel : Setting String
  /-- Whether execution is traced. -/
  debug : Bool

/-- The level from which records are logged. -/
def Settings.level {α : Type} (s : Settings α) : Except Failure Level :=
  Level.ofSetting s.logLevel

/-- The settings of a command line. -/
structure CommandSettings where
  /-- The file with the program. -/
  filename : String
  /-- Instructions a second. -/
  clockSpeed : Int
  /-- The renderer asked for. -/
  renderer : Option String
  /-- The scale of the renderer. -/
  scale : Option Int
  /-- Whether silence is asked for: zero or one. -/
  mute : Option Int
  /-- The keymap. -/
  keymap : String
  /-- The seed of the random bytes. -/
  seed : Option Int
  /-- How a terminal's cursor shows. -/
  cursorMode : Int
  /-- The colours of a window. -/
  palette : Option String
  /-- The name of the level from which records are logged. -/
  logLevel : String
  /-- Whether execution is traced. -/
  debug : Bool
  /-- The options that were last given an empty value, which hides the setting. -/
  emptied : List CommandOption
  deriving DecidableEq, Repr

namespace CommandSettings

/-- The settings of a command line that gives a file alone. -/
def ofFile (filename : String) : CommandSettings where
  filename := filename
  clockSpeed := 700
  renderer := none
  scale := none
  mute := none
  keymap := Keymap.usual
  seed := none
  cursorMode := 0
  palette := none
  logLevel := "warning"
  debug := false
  emptied := []

/-- Whether an option was last given an empty value. -/
def isHidden (c : CommandSettings) (o : CommandOption) : Bool :=
  c.emptied.contains o

/-- The setting of an option that stands at a value, or that an empty value has left blank. -/
def setting {β : Type} (c : CommandSettings) (o : CommandOption) (value : Option β) : Setting β :=
  if c.isHidden o then .blank else Setting.ofOption value

/-- The settings of a session that a command line asks for. An empty value asks for no library as
renderer, and for sound. -/
def settings {α : Type} (ofInt : Int → α) (c : CommandSettings) : Settings α where
  clockSpeed := c.setting .clockSpeed (some (ofInt c.clockSpeed))
  renderer := if c.isHidden .renderer then some "" else c.renderer
  scale := c.setting .scale c.scale
  mute := if c.isHidden .mute then some false else c.mute.map (· != 0)
  keymap := c.setting .keymap (some c.keymap)
  seed := c.setting .seed c.seed
  cursorMode := c.setting .cursorMode (some c.cursorMode)
  palette := c.setting .palette c.palette
  logLevel := c.setting .logLevel (some c.logLevel)
  debug := c.debug

end CommandSettings

end ChipEight
