import ChipEight.Host.Audio
import ChipEight.Host.Inputs
import ChipEight.Host.Renderer

/-!
# The choice of devices

Which devices a session uses, given the renderer asked for, the wish for silence and the libraries
that the host has. Without a wish for a renderer, a window is preferred to a terminal. A window
has sound unless silence is asked for; a terminal is silent unless sound is asked for.

## Main definitions

* `DeviceChoice`: the kinds of the devices.
* `DeviceChoice.select`: the choice.
-/

namespace ChipEight

/-- The kinds of the devices of a session. -/
structure DeviceChoice where
  /-- Where the display is shown and key presses come from. -/
  host : HostKind
  /-- Where the buzzer sounds. -/
  audio : AudioDevice
  deriving DecidableEq, Repr

/-- The libraries that a host has. -/
structure Libraries where
  /-- Whether windows can be opened. -/
  window : Bool
  /-- Whether terminals can be controlled. -/
  terminal : Bool
  deriving DecidableEq, Repr

/-- The renderer asked for. -/
inductive RendererWish
  | any
  | window
  | terminal
  | headless
  deriving DecidableEq, Repr

/-- The renderer that a setting asks for. A setting that names neither library asks for none. -/
def RendererWish.ofSetting : Option String → RendererWish
  | none => .any
  | some "pygame" => .window
  | some "curses" => .terminal
  | some _ => .headless

namespace DeviceChoice

/-- The devices of a session without a host. -/
def headless : DeviceChoice :=
  ⟨.headless, .silent⟩

/-- The devices of a session in a window. -/
def window (mute : Option Bool) : DeviceChoice :=
  ⟨.window, if mute = some true then .silent else .mixer⟩

/-- The devices of a session at a terminal. -/
def terminal (mute : Option Bool) : DeviceChoice :=
  ⟨.terminal, if mute = some false then .bell else .silent⟩

/-- The devices for a wish, a wish for silence and the libraries at hand. -/
def select (wish : RendererWish) (mute : Option Bool) (libraries : Libraries) :
    Except Failure DeviceChoice :=
  match wish with
  | .any =>
    if libraries.window then .ok (window mute)
    else if libraries.terminal then .ok (terminal mute)
    else .error (.host .neither)
  | .window => if libraries.window then .ok (window mute) else .error (.host .noWindow)
  | .terminal => if libraries.terminal then .ok (terminal mute) else .error (.host .noTerminal)
  | .headless => .ok headless

end DeviceChoice

end ChipEight
