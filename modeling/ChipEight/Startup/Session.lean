import ChipEight.Host.Denial
import ChipEight.Machine.Loop
import ChipEight.Startup.Devices
import ChipEight.Startup.Settings

/-!
# Sessions

A session runs one program from start to end, in three parts. It enters: it sets the level of the
log, logs a banner, makes sure that the program is there before it touches the display, and brings
up the renderer. In its body it brings up the inputs and then the audio, and runs the machine in the
host loop. Whatever ended the body, it closes: it shuts down the audio, the inputs and the renderer
in this order, as far as they are up. What fails while it enters is not followed by a shutdown.

The host may deny any call, which ends the part that the call is made in. A session that closes
goes on, though, if it is only the cursor that a terminal cannot show.

## Main definitions

* `Session.enter`, `Session.body`, `Stage.close`: the parts.
* `Stage.shutdown`: the shutdown.
* `Session.runAgainst`: a whole session on a host that may deny calls.
* `Session.run`: a whole session on a host whose terminal alone may deny a call.
-/

namespace ChipEight

variable {α : Type} [TimeNumber α] {σ : Type}

/-- What a session finds on its host. -/
structure HostFacts where
  /-- The libraries at hand. -/
  libraries : Libraries
  /-- What the terminal answers. -/
  terminal : TerminalHost

/-- The calls that a host denies a session. -/
structure Denials where
  /-- Up to the end of the body. -/
  running : Denial
  /-- From there on. -/
  ending : Denial

/-- A host whose terminal alone may deny a call. -/
def Denials.ofTerminal (t : TerminalHost) : Denials :=
  ⟨.ofTerminal t, .ofTerminal t⟩

/-- A session whose renderer is up. -/
structure Stage (α : Type) where
  /-- The renderer. -/
  renderer : Renderer
  /-- The inputs as they came up, if they did. -/
  inputs? : Option (Inputs α)
  /-- The audio, if it is up. -/
  audio? : Option Audio
  /-- What was recorded so far. -/
  journal : Journal α

namespace Session

/-- The text that a session logs first. -/
def banner : String :=
  Renderer.programName ++ " V1.0.0 -- Copyright (C) 2022 Gregory Maynard-Hoare, " ++
    "licensed under GNU Affero General Public License v3.0"

/-- The settings that concern the renderer. -/
def rendererSettings (s : Settings α) : RendererSettings :=
  ⟨s.scale, s.palette, s.cursorMode⟩

/-- The program of a session, which must be there. -/
def requireProgram (program? : Option (List UInt8)) : Except Failure (List UInt8) :=
  match program? with
  | some program => .ok program
  | none => .error .noSuchFile

/-- The program and the devices of a session, both of which must be there. -/
def requirements (s : Settings α) (program? : Option (List UInt8)) (host : HostFacts) :
    Except Failure (List UInt8 × DeviceChoice) := do
  let program ← requireProgram program?
  let choice ← DeviceChoice.select (.ofSetting s.renderer) s.mute host.libraries
  return (program, choice)

/-- Brings the renderer up. Yields it with the program and the devices chosen. Nothing is recorded
before the log has a level, and the host is left untouched unless the program and the devices are
there. -/
def enter (denies : Denial) (s : Settings α) (program? : Option (List UInt8))
    (host : HostFacts) : Except Failure (List UInt8 × DeviceChoice × Renderer) × Journal α :=
  match s.level with
  | .error failure => (.error failure, #[])
  | .ok _ =>
    let journal : Journal α := #[.log .info banner]
    match requirements s program? host with
    | .error failure => (.error failure, journal)
    | .ok (program, choice) =>
      match journal.bringUp denies
        (Renderer.create choice.host (rendererSettings s) host.terminal) with
      | (.error failure, journal) => (.error failure, journal)
      | (.ok renderer, journal) => (.ok (program, choice, renderer), journal)

/-- Brings the inputs and the audio up, in this order. Yields them, and what is up. -/
def equip (denies : Denial) (s : Settings α) (choice : DeviceChoice) (renderer : Renderer)
    (journal : Journal α) : Except Failure (Inputs α × Audio) × Stage α :=
  match Inputs.create choice.host s.keymap with
  | .error failure => (.error failure, ⟨renderer, none, none, journal⟩)
  | .ok inputs =>
    match journal.bringUp denies (Audio.create (α := α) choice.audio) with
    | (.error failure, journal) => (.error failure, ⟨renderer, some inputs, none, journal⟩)
    | (.ok audio, journal) => (.ok (inputs, audio), ⟨renderer, some inputs, some audio, journal⟩)

/-- A machine on devices that are up, with the program loaded, or the failure and what the machine
recorded up to it. -/
def startMachine (s : Settings α) (program : List UInt8) (renderer : Renderer)
    (inputs : Inputs α) (audio : Audio) : Except (Failure × Journal α) (Machine α) :=
  let debugger := if s.debug then Debugger.live else .quiet
  match Machine.create renderer inputs audio s.clockSpeed debugger s.seed true with
  | .error (failure, made) => .error (failure, made)
  | .ok m =>
    match m.load program with
    | (.error failure, m) => .error (failure, m.journal)
    | (.ok (), m) => .ok m

/-- Runs the machine on devices that are up for at most a given number of rounds. Yields the result,
if there is one within them, and what the machine recorded. -/
def work (clock : Clock σ α) (rounds : Nat) (state : σ) (polls : List (List HostEvent))
    (s : Settings α) (program : List UInt8) (renderer : Renderer) (inputs : Inputs α)
    (audio : Audio) : Option (Except Failure Unit) × Journal α :=
  match startMachine s program renderer inputs audio with
  | .error (failure, journal) => (some (.error failure), journal)
  | .ok m =>
    match Loop.start clock m state polls with
    | .error failure => (some (.error failure), m.journal)
    | .ok loop =>
      let (result, loop) := loop.run clock rounds
      (result, loop.machine.journal)

/-- What a session does once its renderer is up. Yields the result and what is up by then. -/
def body (denies : Denial) (clock : Clock σ α) (rounds : Nat) (state : σ)
    (polls : List (List HostEvent)) (s : Settings α) (program : List UInt8)
    (choice : DeviceChoice) (renderer : Renderer) (journal : Journal α) :
    Option (Except Failure Unit) × Stage α :=
  match equip denies s choice renderer journal with
  | (.error failure, stage) => (some (.error failure), stage)
  | (.ok (inputs, audio), stage) =>
    let (result, journal) := stage.journal.attempt denies (some ∘ .error)
      (work clock rounds state polls s program renderer inputs audio)
    (result, { stage with journal })

end Session

namespace Stage

variable (denies : Denial) (stage : Stage α)

/-- Adds what the shutdown of a device records, up to the first call that the host denies. -/
def extend (entries : Journal α) : Option Failure × Stage α :=
  let (failure?, journal) := stage.journal.extend denies entries.toList
  (failure?, { stage with journal })

/-- Shuts the audio down, if it is up. -/
def closeAudio : Option Failure × Stage α :=
  match stage.audio? with
  | some audio => stage.extend denies audio.shutdown
  | none => (none, stage)

/-- Shuts the inputs down, if they are up. -/
def closeInputs : Option Failure × Stage α :=
  match stage.inputs? with
  | some inputs =>
    let (inputs, entries) := inputs.shutdown
    { stage with inputs? := some inputs }.extend denies entries
  | none => (none, stage)

/-- Shuts the renderer down. -/
def closeRenderer : Option Failure × Stage α :=
  stage.extend denies stage.renderer.shutdown

/-- Shuts down what is up: the audio, the inputs and the renderer, in this order. A call that the
host denies ends the shutdown. -/
def shutdown : Option Failure × Stage α :=
  match stage.closeAudio denies with
  | (some failure, stage) => (some failure, stage)
  | (none, stage) =>
    match stage.closeInputs denies with
    | (some failure, stage) => (some failure, stage)
    | (none, stage) => stage.closeRenderer denies

/-- Shuts down what is up. The result stays, unless the host denies more than a cursor. -/
def close {β : Type} (failed : Failure → β) (result : β) : β × Stage α :=
  match stage.shutdown denies.sparingCursor with
  | (some failure, stage) => (failed failure, stage)
  | (none, stage) => (result, stage)

end Stage

namespace Session

/-- A whole session of at most a given number of rounds on a host that may deny calls: its result,
if it ends within them, and everything that was recorded. -/
def runAgainst (denials : Denials) (clock : Clock σ α) (rounds : Nat) (state : σ)
    (polls : List (List HostEvent)) (s : Settings α) (program? : Option (List UInt8))
    (host : HostFacts) : Option (Except Failure Unit) × Journal α :=
  match enter denials.running s program? host with
  | (.error failure, journal) => (some (.error failure), journal)
  | (.ok (program, choice, renderer), journal) =>
    let (result, stage) := body denials.running clock rounds state polls s program choice renderer
      journal
    let (result, stage) := stage.close denials.ending (some ∘ .error) result
    (result, stage.journal)

/-- A whole session on a host that denies no call but the one that its terminal denies. -/
def run (clock : Clock σ α) (rounds : Nat) (state : σ) (polls : List (List HostEvent))
    (s : Settings α) (program? : Option (List UInt8)) (host : HostFacts) :
    Option (Except Failure Unit) × Journal α :=
  runAgainst (.ofTerminal host.terminal) clock rounds state polls s program? host

end Session

end ChipEight
