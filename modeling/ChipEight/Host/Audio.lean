import ChipEight.Extent
import ChipEight.Host.Journal
import ChipEight.TimeNumber

/-!
# Audio

The only sound of the machine is a buzzer. A mixer plays an endless square wave while the buzzer is
on; a terminal rings its bell once when the buzzer goes on; a silent device does nothing but keep
the state.

## Main definitions

* `Audio.openMixer`: brings a mixer up with a tone of some frequency.
* `Audio.setBuzzer`: turns the buzzer on or off.
* `Audio.shutdown`: shuts the device down.
-/

namespace ChipEight

/-- What makes the sound. -/
inductive AudioDevice
  | silent
  | mixer
  | bell
  deriving DecidableEq, Repr

/-- A device and whether its buzzer is on. -/
structure Audio where
  /-- What makes the sound. -/
  device : AudioDevice
  /-- Whether the buzzer is on. -/
  buzzing : Bool
  deriving DecidableEq, Repr

namespace Audio

/-- Samples a second. -/
def sampleRate : Int := 44100

/-- The volume of the tone. -/
def volume : Float := 0.1

/-- A device that makes no sound. -/
def silent : Audio :=
  ⟨.silent, false⟩

/-- A terminal's bell. -/
def bell : Audio :=
  ⟨.bell, false⟩

/-- The usual frequency of the tone. -/
def usualFrequency {α : Type} [TimeNumber α] : α :=
  TimeNumber.ratio 440 1

/-- One period of a square wave of some frequency, as the numbers of high and low samples. A
period has at least two samples, and its second half is the longer one. -/
def tone {α : Type} [TimeNumber α] (frequency : α) : Except Failure (Nat × Nat) := do
  let length ← TimeNumber.whole (← TimeNumber.div (TimeNumber.ofInt sampleRate) frequency)
  let period := max 2 length
  Extent.check Extent.usualLimit (period / 2)
  return ((period / 2).toNat, (period - period / 2).toNat)

/-- Brings a mixer up with a tone of some frequency. The mixer is up before the tone is made, also
when that fails. -/
def openMixer {α : Type} [TimeNumber α] (frequency : α) : Except Failure Audio × List HostCall :=
  let opening := [.prepareMixer sampleRate 0 512 1 8, .openMixer]
  match tone frequency with
  | .error failure => (.error failure, opening)
  | .ok (high, low) => (.ok ⟨.mixer, false⟩, opening ++ [.sound high low, .setVolume volume])

/-- Brings a device up, a mixer with the usual tone. -/
def create {α : Type} [TimeNumber α] (device : AudioDevice) :
    Except Failure Audio × List HostCall :=
  match device with
  | .silent => (.ok silent, [])
  | .bell => (.ok bell, [])
  | .mixer => openMixer (usualFrequency : α)

/-- Turns the buzzer on or off. A tone that is playing is not started again. -/
def setBuzzer (a : Audio) (enabled : Bool) : Audio × List HostCall :=
  let calls := match a.device with
    | .silent => []
    | .mixer =>
      if enabled then if a.buzzing then [] else [.play (-1)]
      else if a.buzzing then [.stop] else []
    | .bell => if enabled && !a.buzzing then [.beep] else []
  ({ a with buzzing := enabled }, calls)

/-- Whether the device makes no sound. -/
def isSilent (a : Audio) : Bool :=
  a.device == .silent

/-- The calls that shut the device down. -/
def closing (a : Audio) : List HostCall :=
  match a.device with
  | .mixer => [.stop, .closeMixer]
  | .silent | .bell => []

/-- Shuts the device down, and yields what is recorded. -/
def shutdown {α : Type} (a : Audio) : Journal α :=
  #[.shutdown .audio] ++ Journal.ofCalls a.closing

end Audio

end ChipEight
