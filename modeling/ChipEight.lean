import ChipEight.Text.Hex
import ChipEight.Text.Blank
import ChipEight.Text.Fitted
import ChipEight.Text.DecimalDigit
import ChipEight.Text.Lowercase
import ChipEight.Text.Printable
import ChipEight.Text.Numeral
import ChipEight.Text.Quoted
import ChipEight.TimeNumber.Scalar
import ChipEight.Extent
import ChipEight.Setting
import ChipEight.Nibble
import ChipEight.Memory
import ChipEight.Font
import ChipEight.Registers
import ChipEight.Keypad
import ChipEight.Display
import ChipEight.Random.Twister
import ChipEight.Processor
import ChipEight.Pacing
import ChipEight.Host.Journal
import ChipEight.Host.Audio
import ChipEight.Host.Renderer
import ChipEight.Host.Inputs
import ChipEight.Host.Denial
import ChipEight.Machine.Loop
import ChipEight.Startup.Devices
import ChipEight.Startup.Settings
import ChipEight.Startup.CommandLine
import ChipEight.Startup.Session
import ChipEight.Main
import ChipEight.Proofs.Instruction.Word
import ChipEight.Proofs.Memory.Block
import ChipEight.Proofs.Registers.Access
import ChipEight.Proofs.Display.Drawing
import ChipEight.Proofs.Display.Flips
import ChipEight.Proofs.Display.Sprite
import ChipEight.Proofs.Display.Covered
import ChipEight.Proofs.Keypad.Fresh
import ChipEight.Proofs.Host.Picture
import ChipEight.Proofs.Processor.Event
import ChipEight.Proofs.Processor.Step
import ChipEight.Proofs.Processor.Fault
import ChipEight.Proofs.Processor.Footprint
import ChipEight.Proofs.Processor.Sound
import ChipEight.Proofs.Processor.FaultRules
import ChipEight.Proofs.Processor.KeyWait
import ChipEight.Proofs.Processor.Subroutine
import ChipEight.Proofs.Processor.Drawing
import ChipEight.Proofs.Processor.Confined
import ChipEight.Proofs.Processor.Burst
import ChipEight.Proofs.Processor.Reseeded
import ChipEight.Proofs.Machine.Core
import ChipEight.Proofs.Machine.Operation
import ChipEight.Proofs.Machine.Reached
import ChipEight.Proofs.Machine.KeyWait
import ChipEight.Proofs.Machine.Action
import ChipEight.Proofs.Machine.Stages
import ChipEight.Proofs.Machine.Running
import ChipEight.Proofs.Machine.Twin
import ChipEight.Proofs.Machine.Reset
import ChipEight.Proofs.Machine.Tracing
import ChipEight.Proofs.Processor.HostSide
import ChipEight.Proofs.Pacing.Accounts
import ChipEight.Proofs.Machine.Ticking
import ChipEight.Proofs.Machine.Slicing
import ChipEight.Proofs.Machine.Pacing
import ChipEight.Proofs.Host.Journal
import ChipEight.Proofs.Machine.Parts
import ChipEight.Proofs.Machine.Entries
import ChipEight.Proofs.Machine.Showing
import ChipEight.Proofs.Machine.Buzzer
import ChipEight.Proofs.Machine.Rounds
import ChipEight.Proofs.TimeNumber.Doubles
import ChipEight.Proofs.TimeNumber.WholeDoubles
import ChipEight.Proofs.Machine.Tally
import ChipEight.Proofs.Machine.Reports
import ChipEight.Proofs.Machine.Countdown
import ChipEight.Proofs.Display.Torus
import ChipEight.Proofs.Processor.Presses
import ChipEight.Proofs.Host.Denial
import ChipEight.Proofs.Machine.HostUse
import ChipEight.Proofs.Startup.Shutdown
import ChipEight.Proofs.Startup.Release
import ChipEight.Proofs.Display.Overlay
import ChipEight.Proofs.Processor.Arithmetic
import ChipEight.Proofs.Processor.Control
import ChipEight.Proofs.Processor.Transfer
import ChipEight.Proofs.Host.Keymap
import ChipEight.Proofs.Text.Numeral
import ChipEight.Proofs.Host.Palette
import ChipEight.Proofs.TimeNumber.WholeParts
import ChipEight.Proofs.Host.Poll
import ChipEight.Proofs.Machine.Halting
import ChipEight.Proofs.Host.WindowKeys
import ChipEight.Proofs.Host.KeyHold
import ChipEight.Proofs.Text.Hex
import ChipEight.Proofs.Trace.Dump
import ChipEight.Proofs.Memory.History
import ChipEight.Proofs.Host.Pad
import ChipEight.Proofs.Host.Frame
import ChipEight.Proofs.Machine.Titles
