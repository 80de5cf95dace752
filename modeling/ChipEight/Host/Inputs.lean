import ChipEight.Host.Journal
import ChipEight.Host.TerminalKeys

/-!
# Inputs

Where key presses come from. A window reports events with key codes, which a keymap turns into
keys; at a terminal characters are typed, which a reader turns into keys; a script presses and
releases keys of the keypad directly; and without a device nothing is ever pressed.

A poll brings the keypad up to date and tells whether the host asks to quit. A window's poll goes
through all its events, also after one that asks to quit. At a terminal the reader has read by then
what was typed since the last poll. If it was left waiting for a place in the queue, the last poll
has made one.

## Main definitions

* `HostEvent`: what a host reports.
* `Inputs.create`: the inputs of a host with a keymap.
* `Inputs.poll`: one poll.
* `Inputs.shutdown`: shuts the inputs down.
-/

namespace ChipEight

variable {α : Type} [TimeNumber α]

/-- What a window, a terminal or a script reports. -/
inductive HostEvent
  /-- The host asks to quit. -/
  | quit
  /-- A key of the window went down. -/
  | keyDown (code : Int)
  /-- A key of the window went up. -/
  | keyUp (code : Int)
  /-- A character was typed at the terminal. -/
  | typed (code : Int)
  /-- A script presses a key of the keypad. -/
  | press (key : Int)
  /-- A script lets a key of the keypad go. -/
  | release (key : Int)
  /-- Anything else. -/
  | other
  deriving DecidableEq, Repr

/-- Where key presses come from. -/
inductive Inputs (α : Type)
  | headless
  | script
  | window (keymap : Keymap)
  | terminal (keys : TerminalKeys α) (reader : Reader)

namespace Inputs

/-- The keymap that a setting gives. -/
def keymapOf (lower : Bool) (keymap : Setting String) : Except Failure Keymap := do
  Keymap.parse lower (← keymap.valueOr .blankText Keymap.usual)

/-- The inputs of a host with a keymap. The keymap is read also without a host. -/
def create (kind : HostKind) (keymap : Setting String) : Except Failure (Inputs α) :=
  match kind with
  | .headless => do
    let _ ← keymapOf false keymap
    return .headless
  | .window => do return .window (← keymapOf false keymap)
  | .terminal => do return .terminal (TerminalKeys.start (← keymapOf true keymap)) (.ok .listening)

/-- The code of the window key that asks to quit when it goes up. -/
def escape : Int := 27

/-- What a window event does to the keypad, and whether it asks to quit. -/
def windowEvent (keymap : Keymap) (keypad : Keypad) : HostEvent → Bool × Keypad
  | .quit => (true, keypad)
  | .keyDown code =>
    match keymap.key? code with
    | some key => (false, keypad.press key)
    | none => (false, keypad)
  | .keyUp code =>
    if code = escape then (true, keypad)
    else
      match keymap.key? code with
      | some key => (false, keypad.release key)
      | none => (false, keypad)
  | .typed _ | .press _ | .release _ | .other => (false, keypad)

/-- What window events do to the keypad in turn, and whether one of them asks to quit. -/
def windowEvents (keymap : Keymap) (keypad : Keypad) (events : List HostEvent) : Bool × Keypad :=
  events.foldl (fun (quit, keypad) event ↦
    let (asked, keypad) := windowEvent keymap keypad event
    (quit || asked, keypad)) (false, keypad)

/-- What a script does to the keypad, and whether it asks to quit. A key that the keypad does not
have ends the script at once. -/
def scriptEvents (quit : Bool) : List HostEvent → Keypad → Except Failure Bool × Keypad
  | [], keypad => (.ok quit, keypad)
  | .press key :: rest, keypad =>
    match Key.ofInt key with
    | .error failure => (.error failure, keypad)
    | .ok key => scriptEvents quit rest (keypad.press key)
  | .release key :: rest, keypad =>
    match Key.ofInt key with
    | .error failure => (.error failure, keypad)
    | .ok key => scriptEvents quit rest (keypad.release key)
  | .quit :: rest, keypad => scriptEvents true rest keypad
  | .keyDown _ :: rest, keypad | .keyUp _ :: rest, keypad | .typed _ :: rest, keypad
  | .other :: rest, keypad => scriptEvents quit rest keypad

/-- The character that an event types. -/
def typed? : HostEvent → Option Int
  | .typed code => some code
  | .quit | .keyDown _ | .keyUp _ | .press _ | .release _ | .other => none

/-- One poll, given the events reported since the last one and the time. -/
def poll (inputs : Inputs α) (events : List HostEvent) (now : α) (keypad : Keypad) :
    Except Failure Bool × Inputs α × Keypad :=
  match inputs with
  | .headless => (.ok false, inputs, keypad)
  | .script =>
    let (result, keypad) := scriptEvents false events keypad
    (result, inputs, keypad)
  | .window keymap =>
    let (quit, keypad) := windowEvents keymap keypad events
    (.ok quit, inputs, keypad)
  | .terminal keys reader =>
    let (reader, keys) := keys.resume reader (events.filterMap typed?)
    let (result, keys, keypad) := keys.poll now keypad
    (result, .terminal keys reader, keypad)

/-- The inputs told to stop, which concerns a terminal's reader only. -/
def stop (inputs : Inputs α) : Inputs α :=
  match inputs with
  | .terminal keys reader => .terminal keys.stop reader
  | .headless | .script | .window _ => inputs

/-- Shuts the inputs down: what is left of them, and what is recorded. That takes no call. -/
def shutdown (inputs : Inputs α) : Inputs α × Journal α :=
  (inputs.stop, #[.shutdown .inputs])

end Inputs

end ChipEight
