import ChipEight.Display
import ChipEight.Host.Journal
import ChipEight.Host.Palette

/-!
# Renderers

Where the display is shown. A window holds a picture of one pixel for each pixel of the display,
stretched to the window's size. A terminal draws each pixel as a run of spaces, reversed if the
pixel is lit, below a line with the title. A renderer without a device only counts frames.

Every operation yields the calls it makes to the host, also when it fails. In a terminal, texts are
fitted to a width, which fails for a width that is no extent on the host.

## Main definitions

* `Renderer.create`: brings a device up.
* `Renderer.resize`, `Renderer.refresh`, `Renderer.setTitle`: what the machine asks of it.
* `Renderer.shutdown`: shuts the device down.
-/

namespace ChipEight

/-- What a terminal answers when it is asked, through the library that controls it. -/
structure TerminalHost where
  /-- The sizes, rows and columns, that it reports in turn; the last one repeats. -/
  sizes : List (Int × Int)
  /-- Whether it can be told its size. -/
  resizable : Bool
  /-- The failure with which a cursor mode is refused. -/
  cursorFailure? : Setting Int → Option Failure

namespace TerminalHost

/-- How a cursor mode is refused at a terminal that can show some modes. A mode that is no number is
refused at any terminal. -/
def refusal (shows : Int → Bool) : Setting Int → Option Failure
  | .given mode => if shows mode then none else some .cursorRefused
  | .absent | .blank => some .noCursorMode

/-- The size of a terminal that reports none. -/
def usualSize : Int × Int := (24, 80)

/-- The size reported now, and the terminal after it. -/
def size (t : TerminalHost) : (Int × Int) × TerminalHost :=
  match t.sizes with
  | [] => (usualSize, t)
  | [last] => (last, t)
  | next :: rest => (next, { t with sizes := rest })

end TerminalHost

/-- A window and the picture in it. -/
structure Window where
  /-- The size of the window. -/
  size : Int × Int
  /-- The colours of the pixels. -/
  palette : Palette
  /-- The bytes of the picture, three to a pixel. -/
  picture : Array UInt8
  deriving DecidableEq, Repr

/-- A terminal that shows the display. -/
structure Terminal where
  /-- What it answers. -/
  host : TerminalHost
  /-- The size when the display was shown last, rows and columns. -/
  lastSize : Int × Int
  /-- How its cursor shows while it is in use. -/
  cursorMode : Setting Int

/-- What shows the display. -/
inductive RendererDevice
  | headless
  | window (w : Window)
  | terminal (t : Terminal)

/-- The settings of a renderer, each of which concerns some devices only. -/
structure RendererSettings where
  /-- The width of a window, or of a pixel in a terminal. -/
  scale : Setting Int
  /-- The colours of a window. -/
  palette : Setting String
  /-- How a terminal's cursor shows. -/
  cursorMode : Setting Int
  deriving DecidableEq, Repr

/-- A device that shows the display. -/
structure Renderer where
  /-- What shows the display. -/
  device : RendererDevice
  /-- The number of columns shown. -/
  width : Int
  /-- The number of rows shown. -/
  height : Int
  /-- The scale of the device. -/
  scale : Int
  /-- The title. -/
  title : String
  /-- How often a display was shown. -/
  frames : Nat
  /-- The least length that the host does not hold. -/
  limit : Int

namespace Renderer

/-! ### Bringing devices up -/

/-- The name of the program, the first title of a window. -/
def programName : String := "MonoChip Emulator"

/-- A renderer for a display of no size, as it is before it is told a size, on a usual host. -/
def fresh (device : RendererDevice) (scale : Int) (title : String) : Renderer where
  device := device
  width := 0
  height := 0
  scale := scale
  title := title
  frames := 0
  limit := Extent.usualLimit

/-- A window of some width, half as high. The window is up before the palette is read, also when
that fails. -/
def sizedWindow (scale : Int) (palette : Setting String) :
    Except Failure Renderer × List HostCall :=
  let size := (scale, Int.fdiv scale 2)
  (do
    let palette ← Palette.parse (← palette.value? .blankText)
    return fresh (.window ⟨size, palette, #[]⟩) scale programName,
  [.sizeWindow size.1 size.2])

/-- Brings a window up. The window system is up before the settings are looked at. -/
def openWindow (settings : RendererSettings) : Except Failure Renderer × List HostCall :=
  let opening := [.openWindow, .caption programName]
  match settings.scale.valueOr .blankNumber 512 with
  | .error failure => (.error failure, opening)
  | .ok scale =>
    let (result, calls) := sizedWindow scale settings.palette
    (result, opening ++ calls)

/-- The area that a terminal needs for a display: a line more for the title, and a row and a column
more so that the last cell can be written. -/
def padFor (width height scale : Int) : HostCall :=
  .makePad (height + 2) (width * scale + 1)

/-- The scale of a terminal, which must be an extent. -/
def terminalScale (setting : Setting Int) : Except Failure Int := do
  let scale ← setting.valueOr .blankNumber 2
  Extent.check Extent.usualLimit scale
  return scale

/-- Brings a terminal up, unless the scale cannot be used or the cursor asked for is refused. The
terminal is up before the cursor is asked for. -/
def openTerminal (settings : RendererSettings) (host : TerminalHost) :
    Except Failure Renderer × List HostCall :=
  let opening := [.openTerminal, .cursor settings.cursorMode]
  match terminalScale settings.scale with
  | .error failure => (.error failure, [])
  | .ok scale =>
    match host.cursorFailure? settings.cursorMode with
    | some failure => (.error failure, opening)
    | none =>
      (.ok (fresh (.terminal ⟨host, (-1, -1), settings.cursorMode⟩) scale ""),
        opening ++ [.echoOff, .charMode, padFor 0 0 scale])

/-- The scale that a setting gives to a renderer without a device, which has no use for it. -/
def headlessScale : Setting Int → Int
  | .given scale => scale
  | .absent | .blank => 1

/-- Brings a device up. -/
def create (kind : HostKind) (settings : RendererSettings) (host : TerminalHost) :
    Except Failure Renderer × List HostCall :=
  match kind with
  | .headless => (.ok (fresh .headless (headlessScale settings.scale) ""), [])
  | .window => openWindow settings
  | .terminal => openTerminal settings host

/-- Prepares for a display of a given size. -/
def resize (r : Renderer) (width height : Int) : Except Failure Renderer × List HostCall :=
  match r.device with
  | .headless => (.ok { r with width, height }, [])
  | .window w =>
    match Extent.ofInt r.limit (width * height * 3) with
    | .error failure => (.error failure, [])
    | .ok length =>
      let picture := Array.replicate length 0
      (.ok { r with device := .window { w with picture }, width, height }, [])
  | .terminal _ => (.ok { r with width, height }, [padFor width height r.scale])

/-! ### Pictures and cells -/

/-- The picture with the pixels of a display in front of what it held, unless it is too small for
them. -/
def Window.paint (w : Window) (pixels : Array Bool) : Except Failure (Array UInt8) :=
  let bytes := pixels.flatMap fun lit ↦ (w.palette.colour lit).bytes
  if bytes.size ≤ w.picture.size then .ok (bytes ++ w.picture.extract bytes.size w.picture.size)
  else .error .lengthMismatch

/-- The calls that draw the rows of a display below the title line. -/
def rowCalls (scale : Int) (rows : List (List Bool)) : List HostCall :=
  rows.zipIdx.flatMap fun (row, y) ↦
    row.zipIdx.map fun (lit, x) ↦ .write (y + 1) (x * scale) "" scale lit

/-- The calls that follow a change of the terminal's size: everything is drawn again. -/
def resizeCalls (t : Terminal) (size : Int × Int) : List HostCall :=
  if size = t.lastSize then []
  else
    [.clearScreen] ++ (if t.host.resizable then [.resizeTerminal size.1 size.2] else []) ++
      [.refreshScreen]

/-! ### Operations -/

/-- Shows a display. -/
def refresh (r : Renderer) (d : Display) : Except Failure Renderer × List HostCall :=
  let counted := { r with frames := r.frames + 1 }
  match r.device with
  | .headless => (.ok counted, [])
  | .window w =>
    match Window.paint w d.pixels with
    | .error failure => (.error failure, [])
    | .ok picture =>
      (.ok { counted with device := .window { w with picture } },
        [.picture picture r.width r.height, .stretch w.size.1 w.size.2, .place 0 0, .present])
  | .terminal t =>
    let (size, host) := t.host.size
    (.ok { counted with device := .terminal { t with host, lastSize := size } },
      rowCalls r.scale d.rows ++ resizeCalls t size ++ [.showPad 0 0 (size.1 - 1) (size.2 - 1)])

/-- Shows a title. A terminal shows it in its first line, over the whole width. -/
def setTitle (r : Renderer) (title : String) : Except Failure Renderer × List HostCall :=
  let titled := { r with title := title }
  match r.device with
  | .headless => (.ok titled, [])
  | .window _ => (.ok titled, [.caption title])
  | .terminal _ =>
    let width := r.width * r.scale
    match Extent.check r.limit width with
    | .error failure => (.error failure, [])
    | .ok () => (.ok titled, [.write 0 0 title width true])

/-- The calls that shut the device down. A terminal gets its cursor back unless it shows already,
also if it refuses. -/
def closing (r : Renderer) : List HostCall :=
  match r.device with
  | .headless => []
  | .window _ => [.closeWindow]
  | .terminal t =>
    [.lineMode, .echoOn] ++ (if t.cursorMode = .given 1 then [] else [.cursor (.given 1)]) ++
      [.closeTerminal]

/-- Shuts the device down, and yields what is recorded. -/
def shutdown {α : Type} (r : Renderer) : Journal α :=
  #[.shutdown .renderer] ++ Journal.ofCalls r.closing

end Renderer

end ChipEight
