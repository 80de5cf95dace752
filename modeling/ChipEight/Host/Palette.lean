import ChipEight.Failure
import ChipEight.Text.Fields
import ChipEight.Text.Numeral

/-!
# Palettes

The colours of dark and lit pixels. A palette is written as at most two hexadecimal numbers of six
characters between commas, the background first; a colour that is not given keeps its usual value.
The six characters are read as a number, so they may include a sign or a mark; a number below zero
is no colour, which is found out only after all fields have been read.

## Main definitions

* `Colour`: the three parts of a colour.
* `Palette.parse`: reads a palette.
-/

namespace ChipEight

/-- The red, green and blue parts of a colour. -/
structure Colour where
  red : UInt8
  green : UInt8
  blue : UInt8
  deriving DecidableEq, Repr

namespace Colour

/-- The parts of a colour in turn. -/
def bytes (c : Colour) : Array UInt8 :=
  #[c.red, c.green, c.blue]

/-- The colour that a number stands for, whose first part must be a byte. -/
def ofInt (n : Int) : Except Failure Colour :=
  if 0 ≤ n ∧ n < 0x1000000 then
    let n := n.toNat
    .ok ⟨UInt8.ofNat (n / 65536), UInt8.ofNat (n / 256), UInt8.ofNat n⟩
  else .error (.notAByte (n / 65536))

end Colour

/-- The colours of dark and lit pixels. -/
structure Palette where
  background : Colour
  foreground : Colour
  deriving DecidableEq, Repr

namespace Palette

/-- The usual colours as numbers, the background first. -/
def usual : List Int :=
  [0x222222, 0xDDDDDD]

/-- The number that a field of a palette stands for. -/
def fieldValue (field : String) : Except Failure Int :=
  if field.length ≠ 6 then .error (.palette .wrongLength)
  else
    match Numeral.read? .sixteen field with
    | some n => .ok n
    | none => .error (.palette .notHexadecimal)

/-- The palette of two colours given as numbers. -/
def ofValues (background foreground : Int) : Except Failure Palette := do
  return ⟨← Colour.ofInt background, ← Colour.ofInt foreground⟩

/-- Reads a palette, if one is given. -/
def parse (text? : Option String) : Except Failure Palette := do
  let fields := match text? with
    | some text => Fields.split ',' text
    | none => []
  if fields.length > 2 then throw (.palette .tooMany)
  let given ← fields.mapM fieldValue
  let values := given ++ usual.drop given.length
  ofValues (values.getD 0 0) (values.getD 1 0)

/-- The colour of a pixel. -/
def colour (p : Palette) (lit : Bool) : Colour :=
  if lit then p.foreground else p.background

end Palette

end ChipEight
