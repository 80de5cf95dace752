import ChipEight.Extent

/-!
# The display

Pixels that are lit or not, row by row. Programs draw sprites: every set bit of a sprite flips the
pixel under it, and drawing reports whether a lit pixel was flipped off. Coordinates wrap around
at all four edges, so that every integer names a column and a row.

A display is made with a pixel for every column of every row, and keeps as many. Its sides may be
two integers of either sign. A side of zero leaves no pixel to name, which fails when a pixel is
asked for. With two sides below zero, coordinates wrap into the range from just above the side up
to zero, and the position they give counts from the end when it is below zero; no rows are shown.

A sprite is drawn bit by bit. Should a bit fail, the pixels flipped by then stay flipped.

## Main definitions

* `Display.position`: where the pixel at two coordinates is held.
* `Display.flipPixel`: flips one pixel.
* `Sprite.cells`: the set bits of a sprite, in the order they are drawn.
* `Display.drawSprite`: draws a sprite, and `Display.draw` if nothing fails.
* `Display.rows`: the rows as a host shows them.
-/

namespace ChipEight

/-- The pixels of the display. -/
@[ext]
structure Display where
  /-- The number of columns. -/
  width : Int
  /-- The number of rows. -/
  height : Int
  /-- Whether each pixel is lit, row by row. -/
  pixels : Array Bool
  /-- Whether anything was drawn since the display was last shown. -/
  dirty : Bool
  /-- There is a pixel for every column of every row. -/
  size_pixels : (pixels.size : Int) = width * height
  deriving DecidableEq, Repr

/-- The rows of a sprite, one byte each, whose highest bit is the leftmost pixel. -/
abbrev Sprite := List UInt8

/-- The number of columns of a sprite. -/
def Sprite.width : Nat := 8

/-- The columns of the set bits of a sprite row, from the left. -/
def Sprite.rowCells (row : UInt8) : List Nat :=
  (List.range Sprite.width).filter fun column ↦ row.toNat.testBit (7 - column)

/-- The columns and rows of the set bits of a sprite, from the top and within a row from the
left. -/
def Sprite.cells (sprite : Sprite) : List (Nat × Nat) :=
  sprite.zipIdx.flatMap fun (row, y) ↦ (Sprite.rowCells row).map fun x ↦ (x, y)

namespace Display

/-- The usual number of columns. -/
def usualWidth : Int := 64

/-- The usual number of rows. -/
def usualHeight : Int := 32

/-- A dark display, due to be shown, on a host with some limit. Its pixels must be an extent. -/
def create (limit width height : Int) : Except Failure Display :=
  match hsize : Extent.ofInt limit (width * height) with
  | .error failure => .error failure
  | .ok size =>
    .ok ⟨width, height, Array.replicate size false, true,
      (congrArg Nat.cast Array.size_replicate).trans (Extent.eq_of_ofInt hsize)⟩

/-- The display of the machine, dark and due to be shown. -/
def usual : Display where
  width := usualWidth
  height := usualHeight
  pixels := Array.replicate (usualWidth * usualHeight).toNat false
  dirty := true
  size_pixels := congrArg Nat.cast Array.size_replicate

/-- Darkens every pixel. -/
def clear (d : Display) : Display where
  width := d.width
  height := d.height
  pixels := Array.replicate d.pixels.size false
  dirty := true
  size_pixels := (congrArg Nat.cast Array.size_replicate).trans d.size_pixels

/-- Notes that the display has been shown. -/
def shown (d : Display) : Display :=
  { d with dirty := false }

/-- Whether the display has no pixel to name. -/
def Flat (d : Display) : Prop :=
  d.width = 0 ∨ d.height = 0

instance (d : Display) : Decidable d.Flat :=
  inferInstanceAs (Decidable (_ ∨ _))

/-- Where the pixel at two coordinates is held. The coordinates wrap around the sides. -/
def position (d : Display) (x y : Int) : Nat :=
  let offset := Int.fmod x d.width + Int.fmod y d.height * d.width
  (if offset < 0 then offset + d.pixels.size else offset).toNat

/-- Whether the pixel held at a position is lit. -/
def isLit (d : Display) (position : Nat) : Bool :=
  d.pixels.getD position false

/-- Flips the pixel held at a position. -/
def flip (d : Display) (position : Nat) : Display where
  width := d.width
  height := d.height
  pixels := d.pixels.modify position not
  dirty := d.dirty
  size_pixels := (congrArg Nat.cast Array.size_modify).trans d.size_pixels

/-- Whether the pixel at two coordinates is lit. -/
def pixel (d : Display) (x y : Int) : Except Failure Bool :=
  if d.Flat then .error .zeroDivisor else .ok (d.isLit (d.position x y))

/-- Flips the pixel at two coordinates and tells whether it was lit. -/
def flipPixel (d : Display) (x y : Int) : Except Failure (Bool × Display) :=
  if d.Flat then .error .zeroDivisor
  else .ok (d.isLit (d.position x y), d.flip (d.position x y))

/-- Flips the pixels under some cells in turn, whose columns and rows count from two coordinates,
and tells whether one of them was lit when its turn came. Pixels flipped in front of a failure stay
flipped. -/
def flipCells (d : Display) (x y : Int) (hit : Bool) :
    List (Nat × Nat) → Except Failure Bool × Display
  | [] => (.ok hit, d)
  | (column, row) :: rest =>
    match d.flipPixel (x + column) (y + row) with
    | .error failure => (.error failure, d)
    | .ok (lit, d) => d.flipCells x y (hit || lit) rest

/-- Draws a sprite with its left upper corner at two coordinates and tells whether a lit pixel was
flipped off. Drawing leaves the display due to be shown, also when the sprite has no set bit. -/
def drawSprite (d : Display) (x y : Int) (sprite : Sprite) : Except Failure Bool × Display :=
  match d.flipCells x y false sprite.cells with
  | (.error failure, d) => (.error failure, d)
  | (.ok hit, d) => (.ok hit, { d with dirty := true })

/-- A display with a sprite drawn, and whether a lit pixel was flipped off. -/
def draw (d : Display) (x y : Int) (sprite : Sprite) : Except Failure (Bool × Display) :=
  match d.drawSprite x y sprite with
  | (.error failure, _) => .error failure
  | (.ok hit, d) => .ok (hit, d)

/-- The rows as a host shows them, from the top. -/
def rows (d : Display) : List (List Bool) :=
  (List.range d.height.toNat).map fun y ↦
    (d.pixels.extract (y * d.width.toNat) ((y + 1) * d.width.toNat)).toList

end Display

end ChipEight
