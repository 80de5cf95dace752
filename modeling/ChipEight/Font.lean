/-!
# The built-in font

Sixteen glyphs, one for each hexadecimal digit, each of five rows. A row is a byte whose high half
is the four pixels of the glyph. The font lies at the start of memory, below where programs are
loaded.
-/

namespace ChipEight.Font

/-- Where the font lies in memory. -/
def address : Nat := 0x000

/-- The number of rows of a glyph. -/
def glyphSize : Nat := 5

/-- The rows of the glyphs for `0` to `F` in turn. -/
def glyphs : List UInt8 := [
  0xF0, 0x90, 0x90, 0x90, 0xF0,
  0x20, 0x60, 0x20, 0x20, 0x70,
  0xF0, 0x10, 0xF0, 0x80, 0xF0,
  0xF0, 0x10, 0xF0, 0x10, 0xF0,
  0x90, 0x90, 0xF0, 0x10, 0x10,
  0xF0, 0x80, 0xF0, 0x10, 0xF0,
  0xF0, 0x80, 0xF0, 0x90, 0xF0,
  0xF0, 0x10, 0x20, 0x40, 0x40,
  0xF0, 0x90, 0xF0, 0x90, 0xF0,
  0xF0, 0x90, 0xF0, 0x10, 0xF0,
  0xF0, 0x90, 0xF0, 0x90, 0x90,
  0xE0, 0x90, 0xE0, 0x90, 0xE0,
  0xF0, 0x80, 0x80, 0x80, 0xF0,
  0xE0, 0x90, 0x90, 0x90, 0xE0,
  0xF0, 0x80, 0xF0, 0x80, 0xF0,
  0xF0, 0x80, 0xF0, 0x80, 0x80]

/-- Every hexadecimal digit has a glyph. -/
theorem length_glyphs : glyphs.length = 16 * glyphSize := rfl

end ChipEight.Font
