import ChipEight.Setting

/-!
# Calls to the host

What the emulator asks of the host it runs on: a window with a picture in it and a sound mixer, or
a character terminal. Calls are data; the emulator records them in order and the outer layer
carries them out.
-/

namespace ChipEight

/-- The kinds of host that a session can run on. -/
inductive HostKind
  /-- None: nothing is shown or pressed. -/
  | headless
  /-- A window. -/
  | window
  /-- A character terminal. -/
  | terminal
  deriving DecidableEq, Repr

/-- A request to the host. -/
inductive HostCall
  /-- Brings the window system up. -/
  | openWindow
  /-- Gives the window a size. -/
  | sizeWindow (width height : Int)
  /-- Gives the window a title. -/
  | caption (title : String)
  /-- Makes a picture of a size from bytes, three to a pixel. -/
  | picture (bytes : Array UInt8) (width height : Int)
  /-- Stretches the picture to a size. -/
  | stretch (width height : Int)
  /-- Puts the stretched picture into the window at a place. -/
  | place (x y : Int)
  /-- Shows what was put into the window. -/
  | present
  /-- Shuts the window system down. -/
  | closeWindow
  /-- Prepares the mixer: samples a second, changes allowed, samples a buffer, channels, bits a
  sample. -/
  | prepareMixer (rate changes buffer channels bits : Int)
  /-- Brings the mixer up. -/
  | openMixer
  /-- Makes a sound of one period: samples at the highest level, then samples at the lowest. -/
  | sound (high low : Nat)
  /-- Sets the volume of the sound. -/
  | setVolume (volume : Float)
  /-- Plays the sound; a number of repetitions below zero never ends. -/
  | play (loops : Int)
  /-- Stops the sound. -/
  | stop
  /-- Shuts the mixer down. -/
  | closeMixer
  /-- Brings the terminal up. -/
  | openTerminal
  /-- Chooses how the cursor shows, as a setting says. -/
  | cursor (mode : Setting Int)
  /-- Stops showing what is typed. -/
  | echoOff
  /-- Hands characters over as they are typed. -/
  | charMode
  /-- Makes an area of character cells. -/
  | makePad (height width : Int)
  /-- Writes a text fitted to a width into the area, dark on light if reversed. -/
  | write (y x : Int) (text : String) (width : Int) (reversed : Bool)
  /-- Clears the screen. -/
  | clearScreen
  /-- Tells the terminal its size. -/
  | resizeTerminal (height width : Int)
  /-- Shows the screen. -/
  | refreshScreen
  /-- Shows the area from its left upper corner in a part of the screen. -/
  | showPad (top left bottom right : Int)
  /-- Hands characters over by the line. -/
  | lineMode
  /-- Shows what is typed. -/
  | echoOn
  /-- Shuts the terminal down. -/
  | closeTerminal
  /-- Rings the terminal's bell. -/
  | beep

end ChipEight
